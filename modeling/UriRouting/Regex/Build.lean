import UriRouting.Regex.Matching
import UriRouting.Regex.Reader
import UriRouting.Regex.Size

/-!
# UriRouting.Regex.Build

Expressions that are ready for use. `Regex.build` reads a text and refuses it if it is nested too
deeply or too large.

What is no matter of the grammar is settled by an engine (`Engine`): which sets of characters have
names, and which expressions are too large.
-/

namespace UriRouting.Regex

/-- How deeply the parts of an expression may be nested. -/
def depthLimit : Nat := 250

/-- What builds expressions. -/
structure Engine where
  /-- The sets of characters that have names. -/
  properties : Properties
  /-- Whether the expression that is written in a text is small enough, with regard to case or
  without. -/
  fits (source : Text) (ignoreCase : Bool) (r : Regex) : Bool

namespace Engine

/-- The engine with the tables of `UriRouting.Unicode` and the sizes of `Regex.footprint`. -/
def standard : Engine where
  properties := .standard
  fits _ _ r := r.fits

/-- The settings that an engine builds expressions under: the dot stands for every character. -/
def flags (engine : Engine) (ignoreCase : Bool) : Flags :=
  { ignoreCase := ignoreCase, dotNewline := true, properties := engine.properties }

/-- The expression written in a text. -/
def build (engine : Engine) (source : Text) (ignoreCase : Bool) : Except ReadError Regex := do
  let part ← read (engine.flags ignoreCase) source
  if depthLimit < part.depth then throw .nestedTooDeeply
  if !engine.fits source ignoreCase part.regex then throw .tooLarge
  return part.regex

/-- What can be read is refused only for its depth or its size. -/
theorem build_of_read {engine : Engine} {source : Text} {ignoreCase : Bool} {part : Part}
    (h : read (engine.flags ignoreCase) source = .ok part) :
    engine.build source ignoreCase =
      if depthLimit < part.depth then .error .nestedTooDeeply
      else if engine.fits source ignoreCase part.regex then .ok part.regex
      else .error .tooLarge := by
  simp only [build, h, bind, Except.bind, pure, Except.pure]
  split
  · rfl
  · cases engine.fits source ignoreCase part.regex <;> rfl

end Engine

/-- The expression written in a text, as the standard engine builds it. -/
def build (source : Text) (ignoreCase : Bool) : Except ReadError Regex :=
  Engine.standard.build source ignoreCase

end UriRouting.Regex
