import ArticleExport.Json.Basic

/-!
# Placeholder tokens

A placeholder is a text of the form `#key#`, where the key consists of ASCII letters, digits,
underscores and hyphens.  A line break after the closing mark does not matter.
-/

namespace ArticleExport.Spec

/-- Whether a character may stand in the key of a placeholder. -/
def isKeyChar : CodePoint → Bool
  | .scalar c => c.isAlphanum || c == '_' || c == '-'
  | .surrogate _ => false

/-- The key of a placeholder. -/
def token? : Text → Option Text
  | .scalar '#' :: rest =>
    let key := rest.takeWhile isKeyChar
    if key.isEmpty then none
    else match rest.dropWhile isKeyChar with
      | [.scalar '#'] | [.scalar '#', .scalar '\n'] => some key
      | _ => none
  | _ => none

/-- The key of a value that is a placeholder. -/
def tokenKey? : Json → Option Text
  | .str t => token? t
  | _ => none

/-- A key without the marks around it. -/
def stripMarks (key : Text) : Text := Text.trim (· == .scalar '#') key

example : token? "#body_font#" = some "body_font" ∧ token? "#a#\n" = some "a" ∧
    token? "##" = none ∧ token? " #a#" = none := by decide

end ArticleExport.Spec
