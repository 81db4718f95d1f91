/-!
# Settings

How documented types are rendered. `Choices` is one value per setting, generic in what a text and
a switch may be, so that one definition serves complete settings, settings given in part, and
settings whose values have not been checked.
-/

namespace ZigDecls

structure Choices (text switch : Type) where
  integerType : text
  floatType : text
  trueAsBool : switch
  unionsAsJson : switch
  strict : switch
deriving DecidableEq, Repr

/-- A text left at `none` leaves the documented type without a rendering. -/
abbrev Settings := Choices (Option String) Bool

def Settings.standard : Settings where
  integerType := some "i64"
  floatType := some "f64"
  trueAsBool := false
  unionsAsJson := true
  strict := false

namespace Choices
variable {t s t' s' : Type}

def map (f : t → t') (g : s → s') (c : Choices t s) : Choices t' s' where
  integerType := f c.integerType
  floatType := f c.floatType
  trueAsBool := g c.trueAsBool
  unionsAsJson := g c.unionsAsJson
  strict := g c.strict

/-- Each setting by itself: the upper value where there is one, the lower value elsewhere. -/
def onto (upper : Choices (Option t) (Option s)) (lower : Choices t s) : Choices t s where
  integerType := upper.integerType.getD lower.integerType
  floatType := upper.floatType.getD lower.floatType
  trueAsBool := upper.trueAsBool.getD lower.trueAsBool
  unionsAsJson := upper.unionsAsJson.getD lower.unionsAsJson
  strict := upper.strict.getD lower.strict

end Choices

end ZigDecls
