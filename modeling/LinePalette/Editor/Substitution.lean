import LinePalette.Editor.Error

/-!
# Substitutions

The tail of a substitution is a pattern, a template and flags between slashes.
Neither pattern nor template can contain a slash.
-/

namespace LinePalette

structure Substitution where
  pattern : Text
  template : Text
  everywhere : Bool
deriving Repr, DecidableEq

namespace Substitution

def parse (tail : Text) : Except EditError Substitution :=
  match Text.splitOn '/' tail with
  | [lead, pattern, template, flags] =>
      if lead = [] ∧ (flags = [] ∨ flags = ['g']) then
        .ok { pattern := pattern, template := template, everywhere := flags = ['g'] }
      else
        .error .invalidSubstitute
  | _ => .error .invalidSubstitute

end Substitution
end LinePalette
