import ArticleExport.Address.Basic

/-!
# Bundles of a push

Only files on the web can be bundled: their addresses have a host and one of the schemes of the web.
-/

namespace ArticleExport

/-- Whether an address leads to a file on the web. -/
def Address.isWeb (a : Address) : Bool :=
  (a.scheme == Text.ofString "http" || a.scheme == Text.ofString "https") && !a.host.isEmpty

/-- The addresses of files on the web, each once, behind those found so far. -/
def cleanFrom (found : List Text) : List Text → Except Fault (List Text)
  | [] => .ok found
  | t :: ts => do
    let a ← Address.read t
    cleanFrom (if a.isWeb && !found.contains t then found ++ [t] else found) ts

/-- The addresses of files on the web, each once, in the order in which they were first seen. -/
def cleanBundles (addresses : List Text) : Except Fault (List Text) := cleanFrom [] addresses

end ArticleExport
