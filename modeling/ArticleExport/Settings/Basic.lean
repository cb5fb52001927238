import ArticleExport.Key

/-!
# Settings

What an export and a push are told by the host: the account at the publishing service, how pushes are
queued and vetoed, and how content is turned into an article.
-/

namespace ArticleExport

/-- What happens with content that no component can show. -/
inductive AlertPolicy where
  /-- It is left out. -/
  | ignore
  /-- It is left out, and the user is told. -/
  | warn
  /-- Nothing is published. -/
  | fail
deriving DecidableEq, Repr

namespace AlertPolicy

/-- The name under which a policy is chosen. -/
def name : AlertPolicy → Text
  | ignore => "none"
  | warn => "warn"
  | fail => "fail"

/-- The policy of a name. -/
def ofName? (t : Text) : Option AlertPolicy := [ignore, warn, fail].find? fun p => p.name == t

end AlertPolicy

/-- The settings of an export and of pushes. -/
structure Settings where
  /-- The address of the publishing service. -/
  apiBaseUrl : Text
  /-- The key of the account. -/
  apiKey : Text
  /-- The secret of the account. -/
  apiSecret : Text
  /-- The channel that is published to. -/
  apiChannel : Text
  /-- How many seconds a request may take. -/
  apiTimeout : Int
  /-- Whether pushes are queued. -/
  apiAsync : Bool
  /-- Whether content is pushed when it is saved. -/
  apiAutosync : Bool
  /-- The terms whose content is not pushed when it is saved. -/
  apiAutosyncSkip : List Key
  /-- What happens with content that no component can show. -/
  componentAlerts : AlertPolicy
  /-- Whether the article declares the text styles of its markup. -/
  htmlSupport : Bool
  /-- The class of the elements that become asides. -/
  asideClass : Text
  /-- Behind how many components the in-article module stands. -/
  inArticlePosition : Int
  /-- Whether images keep their addresses instead of being bundled. -/
  useRemoteImages : Bool
  /-- Whether images span the whole article. -/
  fullBleedImages : Bool
  /-- The address under which sections are linked. -/
  sectionUrlBase : Text
  /-- The theme that counts where no section has one. -/
  activeTheme : Text
deriving DecidableEq, Repr

namespace Settings

/-- The settings of a host that sets nothing. -/
def default : Settings where
  apiBaseUrl := "https://news-api.apple.com"
  apiKey := []
  apiSecret := []
  apiChannel := []
  apiTimeout := 30
  apiAsync := false
  apiAutosync := false
  apiAutosyncSkip := []
  componentAlerts := .ignore
  htmlSupport := true
  asideClass := []
  inArticlePosition := 3
  useRemoteImages := true
  fullBleedImages := false
  sectionUrlBase := "https://news-api.apple.com/sections"
  activeTheme := "Default"

instance : Inhabited Settings := ⟨default⟩

/-- Whether the account and its channel are all given. -/
def isApiConfigured (s : Settings) : Bool :=
  !s.apiKey.isEmpty && !s.apiSecret.isEmpty && !s.apiChannel.isEmpty

/-- The link of a section. -/
def sectionUrl (s : Settings) (id : Key) : Text :=
  Text.trimEnd (· == .scalar '/') s.sectionUrlBase ++ (.scalar '/' :: id.shown)

end Settings

end ArticleExport
