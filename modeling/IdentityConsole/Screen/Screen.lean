import IdentityConsole.Screen.Overlay

/-!
# The screen

From top to bottom: the title, the tabs, the view and the status. Overlays come last.
-/

namespace IdentityConsole.Screen

/-- The heights of the four parts. The view has ten rows at least, as far as there are any. -/
def layout (height : Nat) : Nat × Nat × Nat × Nat :=
  let view := if 18 ≤ height then height - 8 else min height 10
  let left := height - view
  let title := min left 3
  let tabs := min (left - title) 3
  (title, tabs, view, left - title - tabs)

def drawTitleBar (area : Area) (app : App) (canvas : Canvas) : Canvas :=
  let title := "  CIM Console"
  let help :=
    match app.console.session.state.user? with
    | some user => user.displayName ++ "  [?] Help"
    | none => "[?] Help"
  let line : Line :=
    [⟨title, .title⟩, .plain (Text.blanks (area.width - (title.length + help.length + 4))),
      ⟨help, .muted⟩]
  (canvas.drawRule area .border).drawParagraph area.ruled [line]

def drawTabs (area : Area) (app : App) (canvas : Canvas) : Canvas :=
  let tabs := Tab.all.zipIdx.flatMap fun tab =>
    (if tab.2 = 0 then [] else [⟨" | ", .muted⟩]) ++
      [⟨tabNumber tab.2 ++ tab.1.title, if app.tab? = some tab.1 then .currentTab else .muted⟩]
  let spans : Line := .plain " " :: tabs
  let path := app.console.route.path
  let used := spans.foldr (·.text.length + ·) 0
  let line := spans ++
    [.plain (Text.blanks (area.width - (used + path.length + 2))), ⟨path, .muted⟩]
  (canvas.drawRule area .border).drawParagraph area.ruled [line]

/-- The keys that are offered for a view. -/
def shortcuts : View → String
  | .list .. => "[Enter] open | [d]elete | [q]uit"
  | .detail .. => "[e]dit | [s]ave | [Esc] back | [q]uit"
  | .login _ | .dashboard => "[:] go to | [L]ogout | [q]uit"

def drawStatus (area : Area) (app : App) (canvas : Canvas) : Canvas :=
  let status : Span :=
    match app.status with
    | some status =>
      ⟨" " ++ status ++ " ", if app.view.notice? = some status then .success else .muted⟩
    | none => ⟨"", .muted⟩
  let keys := " " ++ shortcuts app.view ++ " "
  let line : Line :=
    [status, .plain (Text.blanks (area.width - status.text.length - keys.length)), ⟨keys, .muted⟩]
  (canvas.style area .statusBar).drawParagraph area [line]

def drawOverlay (app : App) (canvas : Canvas) : Canvas :=
  if app.view.isLogin then drawLogin app.form canvas
  else
    match app.mode with
    | .help => drawHelp canvas
    | .confirmingQuit => drawQuestion canvas
    | .enteringPath => drawPathEntry app.pathInput canvas
    | .normal | .editing | .quitting => canvas

def draw (app : App) (width height : Nat) : Canvas :=
  let (title, tabs, view, status) := layout height
  Canvas.blank width height
    |> drawTitleBar ⟨0, 0, width, title⟩ app
    |> drawTabs ⟨0, title, width, tabs⟩ app
    |> drawView ⟨0, title + tabs, width, view⟩ app
    |> drawStatus ⟨0, title + tabs + view, width, status⟩ app
    |> drawOverlay app

end IdentityConsole.Screen
