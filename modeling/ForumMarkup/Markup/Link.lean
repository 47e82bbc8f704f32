import ForumMarkup.Markup.Tag
import ForumMarkup.Markup.Unsupported
import ForumMarkup.Text.Percent
/-
**Links.**

Web links and anchors in the same document can be written as tags; links of other schemes cannot.
The target of an anchor is brought into one percent-encoded form, whatever spelling it came in.

Main definitions:

* `ForumMarkup.normalizeAnchor` — the one form of an anchor target;
* `ForumMarkup.resolveUrl` — the URL of a link;
* `ForumMarkup.formatLink` — a link tag, with the URL in place of a missing description.
-/

set_option autoImplicit false

namespace ForumMarkup

/-- The characters that stand for themselves in an anchor target, beside the unreserved ones. -/
def urlSafe : List Char := "!#$&'()*+,/:;=?@[]~".toList

/-- The start of every anchor target. -/
def anchorScheme : String := "about:"

/-- The start of an anchor target with a stray slash before its fragment. -/
def strayAnchor : List Char := ['a', 'b', 'o', 'u', 't', ':', '/', '#']

/-- Takes the stray slash out of a target that begins with a path and a fragment. -/
def dropStraySlash (cs : List Char) : List Char :=
  if strayAnchor.isPrefixOf cs then anchorScheme.toList ++ cs.drop 7 else cs

/-- The one form of an anchor target: its escapes are resolved, and what has to be escaped is. -/
def normalizeAnchor (target : String) : String :=
  String.ofList (dropStraySlash (Text.percentEncode urlSafe (Text.percentDecode target.toList)))

/-- The schemes of web links. -/
def webSchemes : List String := ["http", "https"]

/-- Whether a target is an anchor. -/
def isAnchor (target : String) : Bool :=
  anchorScheme.toList.isPrefixOf target.toList

/-- The URL of a link with a scheme, a path and a raw target.  An anchor is known by its raw target,
a web link by its scheme. -/
def resolveUrl (scheme path target : String) : Except Unsupported String :=
  if isAnchor target then .ok (normalizeAnchor target)
  else if webSchemes.contains scheme then .ok (scheme ++ ":" ++ path)
  else .error (.link scheme target)

/-- A link tag around a description; an empty description is replaced by the URL. -/
def formatLink (url description : String) : String :=
  Tag.url.wrapValue (if description.isEmpty then url else description) url

/-- A link as a tag. -/
def formatTarget (scheme path target description : String) : Except Unsupported String := do
  return formatLink (← resolveUrl scheme path target) description

end ForumMarkup
