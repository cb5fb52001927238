import ArticleExport.Article.Metadata
import ArticleExport.Component.Templates
import ArticleExport.Component.Walk
import ArticleExport.Logging
import ArticleExport.Publish.Lookup
import ArticleExport.Sync.Fingerprint

/-!
# Fixed values

The fixed values of the package under the names by which a host may ask for them.
-/

namespace ArticleExport.Constants

/-- The fixed values of documents and their fingerprints. -/
def ofDocuments : Table Json :=
  Json.fields [("GENERATOR_NAME", .str generatorName),
    ("GENERATOR_IDENTIFIER", .str generatorIdentifier),
    ("GENERATOR_VERSION", .str generatorVersion),
    ("FORMAT_VERSION", .str formatVersion),
    ("VOLATILE_METADATA_FIELDS", .texts volatileFields),
    ("FINGERPRINT_LENGTH", .nat fingerprintLength)]

/-- The fixed values of components. -/
def ofComponents : Table Json :=
  Json.fields [("COMPONENT_ERRORS", .str ExportError.componentPhase),
    ("FOOTNOTES_CLASS", .str Kind.footnotesClass), ("PULLQUOTE_CLASS", .str Kind.pullquoteClass),
    ("DARK_MODE_CONDITIONS", Template.darkMode),
    ("UNSUPPORTED_TAGS", .texts (Text.sorted unsupportedTags)),
    ("INLINE_TAGS", .texts (Text.sorted inlineTags)), ("BUNDLE_SCHEME", .str Component.bundleScheme)]

/-- The fixed values of pushes. -/
def ofPushes : Table Json :=
  Json.fields [("API_TIMEOUT_SECONDS", .int Settings.default.apiTimeout),
    ("CHANNEL_CACHE_TTL", .int Lookup.channelLifetime),
    ("ARTICLE_ID_KEY_PATH", .str RemoteError.articleKey),
    ("ARTICLE_FILENAME", .str Workspace.articleFile)]

/-- The fixed values of loggers. -/
def ofLoggers : Table Json :=
  Json.fields [("ROOT_LOGGER", .str Loggers.rootName), ("LOG_LEVEL", .str Loggers.infoLevelName),
    ("LOG_FORMAT", .str Loggers.recordFormat), ("LOG_FILE", .str Loggers.defaultFile),
    ("LOG_MAX_SIZE_MB", .nat Loggers.maxMegabytes), ("LOG_BACKUP_COUNT", .nat Loggers.backupCount)]

/-- All fixed values, with the values that themes have by default. -/
def table : Table Json :=
  ofDocuments ++ ofComponents ++ ofPushes ++ ofLoggers ++
    Json.fields [("DEFAULT_THEME_VALUES", .obj Theme.defaults)]

end ArticleExport.Constants
