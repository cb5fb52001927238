import ArticleExport.Article.Assembly

/-!
# Content items

An item of the host: its markup, where it belongs, and what the host has noted about it.
-/

namespace ArticleExport

/-- A content item. -/
structure Content where
  /-- The identifier. -/
  id : Key
  /-- The title, as the host gives it. -/
  title : Json
  /-- The markup. -/
  html : Text
  /-- The sections that it belongs to. -/
  sections : List Key
  /-- Its terms, as the host gives them. -/
  terms : Json
  /-- What the host has noted about it. -/
  notes : Table Json
  /-- Entries for the metadata of a push: objects with a key, a type and a value. -/
  custom : List Json
  /-- The language, as the host gives it. -/
  language : Json
  /-- When it was created. -/
  created : Option Moment
  /-- When it was changed. -/
  modified : Option Moment
  /-- When it was published. -/
  published : Option Moment
deriving DecidableEq

namespace Content

/-- The item of an identifier with nothing in it. -/
def blank (id : Key) : Content := ⟨id, .str [], [], [], .arr [], [], [], "en", none, none, none⟩

/-- The identifier in messages and names. -/
def label (c : Content) : Text := c.id.shown

/-- The identity and dates of the item's article. -/
def info (c : Content) : ArticleInfo :=
  ⟨.str c.label, c.title, c.language, c.created, c.modified, c.published⟩

end Content

/-- Puts the article of a content item together. -/
def Assembler.export (a : Assembler) (c : Content) : Except Failure ExportResult := do
  let root ← (Node.parse c.html).mapError .fault
  a.assemble root c.sections c.info

/-- The content items of a host by identifier. -/
abbrev ContentStore := KeyTable Content

/-- The store of items; of two with one identifier the later one counts. -/
def ContentStore.ofList (items : List Content) : ContentStore :=
  KeyTable.ofEntries (items.map fun c => (c.id, c))

/-- The store with an item. -/
def ContentStore.add (store : ContentStore) (c : Content) : ContentStore :=
  KeyTable.set c.id c store

end ArticleExport
