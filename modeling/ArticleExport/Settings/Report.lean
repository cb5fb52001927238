import ArticleExport.Json.Basic
import ArticleExport.Settings.Basic

/-!
# Showing settings

Settings as JSON: all of them for the host, and those without the account for a client.
-/

namespace ArticleExport.Settings

/-- All settings by name. -/
def toTable (s : Settings) : Table Json :=
  [("api_base_url", s.apiBaseUrl), ("api_key", s.apiKey), ("api_secret", s.apiSecret),
    ("api_channel", s.apiChannel), ("api_timeout", .int s.apiTimeout),
    ("api_async", .bool s.apiAsync), ("api_autosync", .bool s.apiAutosync),
    ("api_autosync_skip", .arr (s.apiAutosyncSkip.map Json.ofKey)),
    ("component_alerts", s.componentAlerts.name), ("html_support", .bool s.htmlSupport),
    ("aside_component_class", s.asideClass), ("in_article_position", .int s.inArticlePosition),
    ("use_remote_images", .bool s.useRemoteImages),
    ("full_bleed_images", .bool s.fullBleedImages), ("section_url_base", s.sectionUrlBase),
    ("active_theme", s.activeTheme)]

/-- The settings that a client may see; the account is not among them. -/
def toPublic (s : Settings) : Table Json :=
  [("apiAsync", .bool s.apiAsync), ("apiAutosync", .bool s.apiAutosync),
    ("componentAlerts", s.componentAlerts.name), ("fullBleedImages", .bool s.fullBleedImages),
    ("htmlSupport", .bool s.htmlSupport), ("inArticlePosition", .int s.inArticlePosition),
    ("useRemoteImages", .bool s.useRemoteImages), ("activeTheme", s.activeTheme)]

end ArticleExport.Settings
