import AboutPages.Page.Table

/-!
# Registration manifest

Each page is announced to the host program by one line: a contract identifier made of the page's
name, and the class that serves all pages.
-/

namespace AboutPages

open Text

namespace Registration

def classId : String := "\x7b8cc51368-6aa0-43e8-b762-bde9b9fd828c\x7d"

def description : String := "Browser about: Redirector"

def contractStem : String := "@mozilla.org/network/protocol/about;1?what="

def contractId (name : String) : String := contractStem ++ lowercase name

def line (name : String) : String := "contract " ++ contractId name ++ " " ++ classId

end Registration

def PageTable.manifest (table : PageTable) : List String := table.names.map Registration.line

end AboutPages
