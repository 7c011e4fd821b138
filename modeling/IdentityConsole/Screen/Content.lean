import IdentityConsole.App.App
import IdentityConsole.Screen.Panel
import IdentityConsole.Text.Clip

/-!
# What views show
-/

namespace IdentityConsole

namespace Record

/-- Columns of a list, in characters. -/
def idColumn : Nat := 24

def nameColumn : Nat := 20

/-- A text in a column. -/
def cell (text : String) (width : Nat) : String :=
  Text.padRight (Text.clip text width) width

def twoCells (first second : String) : String :=
  cell first idColumn ++ " " ++ second

def threeCells (first second third : String) : String :=
  cell first idColumn ++ " " ++ cell second nameColumn ++ " " ++ third

/-- The row of a record in its list. -/
def row : {kind : Kind} → kind.Record → String
  | .users => fun (user : User) => threeCells user.id user.displayName (user.email.getD "")
  | .groups => fun (group : Group) => twoCells group.id group.name
  | .policies => fun (policy : Policy) => twoCells policy.id policy.desc

/-- The row above the others. -/
def header : Kind → String
  | .users => threeCells "ID" "Name" "Email"
  | .groups => twoCells "ID" "Name"
  | .policies => twoCells "ID" "Description"

end Record

namespace Screen

/-- What is typed is followed by a cursor. -/
def cursor : String := "▌"

def labelWidth : Nat := 13

def label (text : String) : String :=
  Text.padLeft text labelWidth ++ ": "

def infoLine (name value : String) : Line :=
  [⟨label name, .muted⟩, ⟨value, .item⟩]

def commaSeparated (texts : List String) : String :=
  ", ".intercalate texts

def statementLines (statement : Statement) : List Line :=
  let effect : Span :=
    match statement.effect with
    | .allow => ⟨"allow", .allow⟩
    | .deny => ⟨"deny", .deny⟩
  let conditions : List Line :=
    match statement.conditions with
    | some conditions =>
      if conditions.isEmpty then [] else [infoLine "Conditions" (commaSeparated conditions.keys)]
    | none => []
  [Line.empty, [.plain "  ", effect], infoLine "Subjects" (commaSeparated statement.subjects),
    infoLine "Actions" (commaSeparated statement.actions),
    infoLine "Resources" (commaSeparated statement.resources)] ++ conditions

/-- What is shown of a record besides its fields. -/
def recordLines : {kind : Kind} → kind.Record → List Line
  | .users => fun (user : User) =>
    (if user.accountId = "" then [] else [infoLine "Account" user.accountId]) ++
    (user.createdAt.toList.map fun created => infoLine "Created" created.toMinutes)
  | .groups => fun (group : Group) =>
    if group.desc = "" then [] else [infoLine "Description" group.desc]
  | .policies => fun (policy : Policy) =>
    (if policy.version = "" then [] else [infoLine "Version" policy.version]) ++
    infoLine "Statements" policy.summary :: policy.statements.flatMap statementLines

def drawLoading (area : Area) (title : String) (canvas : Canvas) : Canvas :=
  (canvas.drawPanel area (" " ++ title ++ " ") .border).drawParagraph area.framed
    [Line.styled "  Loading..." .muted]

def drawList (area : Area) (kind : Kind) (rows : Option (List kind.Record)) (selection : Nat)
    (canvas : Canvas) : Canvas :=
  match rows with
  | none => drawLoading area kind.plural canvas
  | some rows =>
    let title := " " ++ kind.plural ++ " (" ++ toString rows.length ++ ") "
    let canvas := canvas.drawPanel area title .focusedBorder
    if rows.isEmpty then
      canvas.drawParagraph area.framed [Line.styled ("  No " ++ kind.nouns ++ " found") .muted]
    else
      let header : Line × Style := (Line.styled (Record.header kind) .highlight, .plain)
      let items := rows.zipIdx.map fun row =>
        (Line.ofText (Record.row row.1), if row.2 = selection then Style.selected else Style.item)
      canvas.drawItems area.framed (header :: items) (selection + 1)

/-- One field of a record; the one being edited shows what is typed. -/
def fieldLine (app : App) (field : Field) (value : String) (index : Nat) : Line :=
  let selected := index = app.selection
  let shown : Span :=
    if selected ∧ app.mode = .editing then ⟨app.editBuffer ++ cursor, .input⟩
    else ⟨value, if selected then .selected else .item⟩
  [⟨label field.label, .highlight⟩, shown]

def drawDetail (area : Area) (app : App) (kind : Kind) (id : String) (record : Option kind.Record)
    (notice : Option String) (canvas : Canvas) : Canvas :=
  let title := kind.singular ++ " " ++ id
  match record with
  | none => drawLoading area title canvas
  | some record =>
    let fields := (Record.fields kind).zipIdx.map fun field =>
      fieldLine app field.1 (Record.field record field.1) field.2
    let notices : List Line :=
      match notice with
      | some notice => [Line.empty, Line.styled ("  " ++ notice) .success]
      | none => []
    let lines := fields ++ Line.empty :: infoLine "ID" id :: recordLines record ++ notices
    (canvas.drawPanel area (" " ++ title ++ " ") .focusedBorder).drawBroken area.framed lines

def tabNumber (index : Nat) : String :=
  "[" ++ toString (index + 1) ++ "] "

def drawDashboard (area : Area) (app : App) (canvas : Canvas) : Canvas :=
  let name := (app.console.session.state.user?.map Identity.displayName).getD ""
  let links := Kind.all.zipIdx.map fun kind =>
    [⟨"  " ++ tabNumber (kind.2 + 1), .helpKey⟩, ⟨"Manage " ++ kind.1.nouns, .helpText⟩]
  let lines : List Line :=
    [Line.empty, [.plain "  Signed in as ", ⟨name, .highlight⟩],
      Line.styled ("  " ++ app.console.client.address) .muted, Line.empty] ++ links
  (canvas.drawPanel area " Dashboard " .focusedBorder).drawParagraph area.framed lines

def drawView (area : Area) (app : App) (canvas : Canvas) : Canvas :=
  match app.view with
  | .login _ => canvas
  | .dashboard => drawDashboard area app canvas
  | .list kind rows => drawList area kind rows app.selection canvas
  | .detail kind id record notice => drawDetail area app kind id record notice canvas

end Screen

end IdentityConsole
