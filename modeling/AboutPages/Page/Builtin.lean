import AboutPages.Page.Table

/-!
# The pages that are always there

Ten pages, and two more when synchronisation is switched on.
-/

namespace AboutPages

def corePages : List Page :=
  let script := Capabilities.ofList [.allowScript]
  let quiet := Capabilities.ofList [.safeForUntrustedContent, .allowScript, .hideFromListing]
  let linked := Capabilities.ofList [.safeForUntrustedContent, .makeLinkable, .allowScript]
  [ ⟨"certerror", "chrome://browser/content/certerror/aboutCertError.xhtml", quiet⟩,
    ⟨"downloads", "chrome://browser/content/downloads/contentAreaDownloadsView.xul", script⟩,
    ⟨"feeds", "chrome://browser/content/feeds/subscribe.xhtml", quiet⟩,
    ⟨"home", "chrome://browser/content/abouthome/aboutHome.xhtml", linked⟩,
    ⟨"newtab", "chrome://browser/content/newtab/newTab.xhtml", script⟩,
    ⟨"palemoon", "chrome://browser/content/palemoon.xhtml",
      Capabilities.ofList [.safeForUntrustedContent, .hideFromListing]⟩,
    ⟨"permissions", "chrome://browser/content/permissions/aboutPermissions.xul", script⟩,
    ⟨"privatebrowsing", "chrome://browser/content/aboutPrivateBrowsing.xhtml", script⟩,
    ⟨"rights", "chrome://global/content/aboutRights.xhtml", linked⟩,
    ⟨"sessionrestore", "chrome://browser/content/aboutSessionRestore.xhtml", script⟩ ]

def syncPages : List Page :=
  let script := Capabilities.ofList [.allowScript]
  [ ⟨"sync-progress", "chrome://browser/content/sync/progress.xhtml", script⟩,
    ⟨"sync-tabs", "chrome://browser/content/sync/aboutSyncTabs.xul", script⟩ ]

def builtinPages (servicesSync : Bool) : List Page :=
  if servicesSync then corePages ++ syncPages else corePages

def PageTable.builtin (servicesSync : Bool) : PageTable :=
  (builtinPages servicesSync).foldl PageTable.put PageTable.empty

end AboutPages
