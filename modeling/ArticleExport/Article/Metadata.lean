import ArticleExport.Article.Date
import ArticleExport.Json.Basic

/-!
# Metadata of an article

What an article says about itself: its dates, and which generator wrote it.
-/

namespace ArticleExport

/-- The version of the article format. -/
def formatVersion : Text := "1.14"

/-- The version of the generator. -/
def generatorVersion : Text := "2.5.0"

/-- The name of the generator. -/
def generatorName : Text := "news-article-exporter"

/-- The identifier of the generator. -/
def generatorIdentifier : Text := "NewsArticleExporter"

/-- The identity and dates of an article. -/
structure ArticleInfo where
  /-- The identifier, as the host gives it. -/
  identifier : Json
  /-- The title, as the host gives it. -/
  title : Json
  /-- The language, as the host gives it. -/
  language : Json
  /-- When the content was created. -/
  created : Option Moment
  /-- When the content was changed. -/
  modified : Option Moment
  /-- When the content was published. -/
  published : Option Moment
deriving DecidableEq

namespace ArticleInfo

/-- The article without identity and dates. -/
def default : ArticleInfo := ⟨.str [], .str [], "en", none, none, none⟩

instance : Inhabited ArticleInfo := ⟨default⟩

/-- An entry for a date, where there is one. -/
def dateEntry (name : Text) (date : Option Moment) : Table Json :=
  match date with
  | some m => [(name, m.text)]
  | none => []

/-- The entries about the generator. -/
def generator : Table Json :=
  [("generatorName", .str generatorName), ("generatorIdentifier", .str generatorIdentifier),
    ("generatorVersion", .str generatorVersion)]

/-- The metadata of the article. -/
def metadata (info : ArticleInfo) : Table Json :=
  dateEntry "dateCreated" info.created ++ dateEntry "dateModified" info.modified ++
    dateEntry "datePublished" info.published ++ generator

end ArticleInfo

end ArticleExport
