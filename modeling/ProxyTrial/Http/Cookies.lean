import ProxyTrial.Http.Headers
import ProxyTrial.Http.Url
/-!
# The cookies of a response

Cookies that a response sets go with the request that it redirects to, if they
belong there.  Which of them do, and how they are written, is up to a store; they
may be none that a request can have.

## Main definitions

* `CookieStore`: what keeps the cookies of a response
* `CookieStore.standard`: what keeps cookies without attributes
-/

namespace ProxyTrial.Http

/-- What keeps the cookies that a response sets in its fields.  Without them
there is nothing to be wrong about. -/
structure CookieStore where
  /-- What is wrong with the cookies of a response to a request for `base`, if
  they belong to a request for `url` that cannot have them. -/
  fault? : (base url : Url) → Fields → Option String
  fault?_of_none : ∀ base url fs, fs.joined? "set-cookie" = none → fault? base url fs = none

/-- A cookie without attributes: its name, and itself as it is sent. -/
def plainCookie? (text : String) : Option (List Char × List Char) :=
  let trimmed := Text.trimBy Text.isBlank
  let (name, value) := Text.cutAt '=' text.toList
  if text.toList.contains ';' || (trimmed name).isEmpty then none
  else some (trimmed name, trimmed name ++ (value.map fun v => '=' :: trimmed v).getD [])

/-- Cookies with another one, which takes the place of one with its name. -/
def keepCookie (cookies : List (List Char × List Char)) (c : List Char × List Char) :
    List (List Char × List Char) :=
  if cookies.any (·.1 == c.1) then cookies.map fun d => if d.1 == c.1 then c else d
  else cookies ++ [c]

/-- The domain that a URL belongs to: its authority without the port. -/
def Url.cookieDomain (u : Url) : List Char :=
  let domain := (Text.lower ({ u with port := none } : Url).authority).toList
  if domain.contains '.' then domain else domain ++ ".local".toList

/-- The path that the cookies of a URL are for: its own, up to the last slash. -/
def Url.cookiePath (u : Url) : List Char :=
  let path := ((u.path.toList.reverse.dropWhile (· != '/')).drop 1).reverse
  if path.isEmpty then ['/'] else path

/-- Whether cookies without attributes that are set for one URL belong to
another one. -/
def Url.sharesCookies (base url : Url) : Bool :=
  let path := base.cookiePath
  ('.' :: base.cookieDomain).isSuffixOf ('.' :: url.cookieDomain) &&
    path.isPrefixOf url.path.toList &&
      match url.path.toList.drop path.length with
      | [] => true
      | c :: _ => c == '/' || path.getLast? == some '/'

/-- Cookies are sent in ASCII.  Those with attributes are not known here, and
are not sent. -/
def CookieStore.standard : CookieStore where
  fault? base url fs :=
    let cookies := ((fs.valuesOf "set-cookie").filterMap plainCookie?).foldl keepCookie []
    let text := List.intercalate "; ".toList (cookies.map (·.2))
    if base.sharesCookies url then
      match Text.encode .ascii (String.ofList text) with
      | .error e => some e.message
      | .ok _ => none
    else none
  fault?_of_none base url fs h := by
    have hvalues : fs.valuesOf "set-cookie" = [] := by
      unfold Fields.joined? at h
      split at h
      · assumption
      · cases h
    rw [hvalues]
    exact ite_self _

end ProxyTrial.Http
