import IdentityConsole.Screen.Content

/-!
# Overlays
-/

namespace IdentityConsole.Screen

/-- Draws a panel over whatever was in an area. -/
def drawOver (area : Area) (title : Option String) (lines : List Line) (canvas : Canvas) : Canvas :=
  let canvas := canvas.clear area
  let canvas :=
    match title with
    | some title => canvas.drawPanel area title .focusedBorder
    | none => canvas.drawBorder area .focusedBorder
  canvas.drawParagraph area.framed lines

def formWidth : Nat := 20

def maskedLength : Nat := 20

/-- A password is shown as so many stars at most. -/
def masked (password : String) : String :=
  String.ofList (List.replicate (min password.length maskedLength) '*')

def focusStyle (focused : Bool) : Style :=
  if focused then .selected else .item

def inputLine (name value : String) (focused : Bool) : Line :=
  let shown := Text.padRight value formWidth ++ if focused then cursor else ""
  [.plain "      ", ⟨name ++ ": [", .muted⟩, ⟨shown, focusStyle focused⟩, ⟨"]", .muted⟩]

def buttonLine (focused : Bool) : Line :=
  [.plain "              [", ⟨if focused then " ▶ Login ◀ " else "   Login   ", focusStyle focused⟩,
    .plain "]"]

def loginLines (username maskedPassword : String) (focus : LoginFocus) (error : Option String) :
    List Line :=
  [Line.styled "  Sign in to CIM" .title, Line.empty,
    inputLine "Username" username (focus = .username),
    inputLine "Password" maskedPassword (focus = .password),
    Line.empty, buttonLine (focus = .button)] ++
  match error with
  | some error => [Line.empty, Line.styled (" " ++ error) .failure]
  | none => []

def drawLogin (form : LoginForm) (canvas : Canvas) : Canvas :=
  let area := Area.centered 50 (if form.error.isSome then 11 else 9) canvas.area
  drawOver area none (loginLines form.username (masked form.password) form.focus form.error) canvas

def version : String := "0.1.0"

def helpLine (keys description : String) : Line :=
  [⟨"  " ++ Text.padRight keys 10, .helpKey⟩, ⟨description, .helpText⟩]

def helpLines : List Line :=
  [Line.styled "  CIM Console" .title, Line.styled ("  version " ++ version) .muted, Line.empty,
    Line.styled " Navigation" .highlight, helpLine "1-4" "Switch tabs",
    helpLine "←/→" "Prev/next tab", helpLine "↑/↓" "Navigate list or fields",
    helpLine "Enter" "Open selected", helpLine "Esc" "Go back",
    helpLine ":" "Go to a path, e.g. /groups/ID", Line.empty,
    Line.styled " Lists" .highlight, helpLine "d" "Delete selected", Line.empty,
    Line.styled " Details" .highlight, helpLine "e" "Edit selected field",
    helpLine "s" "Save changes", Line.empty, helpLine "L" "Log out", helpLine "q" "Quit",
    Line.empty, [⟨"       Press ", .muted⟩, ⟨"?", .helpKey⟩, ⟨" or ", .muted⟩, ⟨"Esc", .helpKey⟩,
      ⟨" to close", .muted⟩]]

def drawHelp (canvas : Canvas) : Canvas :=
  drawOver (Area.centered 52 24 canvas.area) none helpLines canvas

def questionLines : List Line :=
  [Line.empty, Line.styled "   Are you sure you want to quit?" .highlight, Line.empty,
    [⟨"   Press ", .muted⟩, ⟨"[Y]", .helpKey⟩, ⟨" to quit, ", .muted⟩, ⟨"[N]", .helpKey⟩,
      ⟨" to cancel", .muted⟩]]

def drawQuestion (canvas : Canvas) : Canvas :=
  drawOver (Area.centered 46 6 canvas.area) none questionLines canvas

def drawPathEntry (path : String) (canvas : Canvas) : Canvas :=
  drawOver (Area.centered 50 3 canvas.area) (some " Go to ")
    [[⟨" : ", .helpKey⟩, ⟨path ++ cursor, .input⟩]] canvas

end IdentityConsole.Screen
