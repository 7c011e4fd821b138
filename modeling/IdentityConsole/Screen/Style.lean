/-!
# Styles
-/

namespace IdentityConsole

inductive Color
  | reset
  | white
  | rgb (red green blue : Nat)
deriving DecidableEq, Repr

/-- What a style changes: a color where one is given, and weight and underline where they are set.
-/
structure Style where
  foreground : Option Color
  background : Option Color
  bold : Bool
  underlined : Bool
deriving DecidableEq, Repr

namespace Style

def plain : Style := ⟨none, none, false, false⟩

def ofColor (color : Color) : Style := { plain with foreground := some color }

def primaryColor : Color := .rgb 64 128 192

def secondaryColor : Color := .rgb 96 160 96

def accentColor : Color := .rgb 192 160 64

def errorColor : Color := .rgb 192 64 64

def mutedColor : Color := .rgb 128 128 128

def highlightColor : Color := .rgb 48 48 64

def title : Style := { ofColor primaryColor with bold := true }

def selected : Style := { plain with background := some highlightColor, bold := true }

def item : Style := ofColor .white

def muted : Style := ofColor mutedColor

def highlight : Style := ofColor accentColor

def success : Style := ofColor secondaryColor

def failure : Style := ofColor errorColor

def allow : Style := ofColor secondaryColor

def deny : Style := ofColor errorColor

def currentTab : Style := { title with underlined := true }

def focusedBorder : Style := ofColor primaryColor

def border : Style := ofColor mutedColor

def input : Style := ofColor accentColor

def statusBar : Style := { ofColor .white with background := some (.rgb 32 32 40) }

def helpKey : Style := { ofColor accentColor with bold := true }

def helpText : Style := ofColor .white

end Style

end IdentityConsole
