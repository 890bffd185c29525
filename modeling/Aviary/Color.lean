/-!
# Colours
-/

namespace Aviary

/-- A colour, translucent if it has an alpha channel. -/
structure Color where
  red : Nat
  green : Nat
  blue : Nat
  alpha : Option Nat := none
  deriving DecidableEq

namespace Color

def food : Color := ⟨0, 255, 128, none⟩
def animal : Color := ⟨255, 255, 255, none⟩
def background : Color := ⟨10, 10, 14, none⟩
def panel : Color := ⟨25, 25, 35, none⟩
def input : Color := ⟨32, 32, 45, none⟩
def text : Color := ⟨180, 185, 195, none⟩
def brightText : Color := ⟨230, 235, 245, none⟩
def error : Color := ⟨230, 110, 100, none⟩
def divider : Color := ⟨40, 40, 55, none⟩

/-- The shade behind the status line. -/
def statusShade : Color := ⟨0, 0, 0, some 140⟩

/-- The colour of an eye cell, more opaque the more energy it senses. -/
def eye (alpha : Nat) : Color := ⟨0, 255, 128, some alpha⟩

end Color

end Aviary
