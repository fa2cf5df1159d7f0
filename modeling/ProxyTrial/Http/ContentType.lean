import ProxyTrial.Http.Charset
import ProxyTrial.Http.Headers
import ProxyTrial.Text.Integer
/-!
# The character set that a content type names

A content type is followed by parameters after semicolons; a semicolon between
double quotes separates nothing.  The first parameter called `charset` counts,
be it the content type itself.  A parameter whose name ends in an asterisk has
a value with percent escapes, before which stand a character set and a language
between apostrophes.

## Main definitions

* `bodyCharset`: the character set of a body
* `TextReader`: what turns bodies into text
-/

namespace ProxyTrial.Http

/-- Whether an odd number of double quotes without a backslash before them
stands in the characters. -/
def quoteOpen (cs : List Char) : Bool :=
  let quotes := cs.count '"'
  let escaped := ((cs.zip (cs.drop 1)).filter fun p => p == ('\\', '"')).length
  (quotes + escaped) % 2 == 1

/-- The first parameter, and what follows the semicolon after it; `before` is
the part of it that has been read, newest first. -/
def firstParameter (before : List Char) : List Char → List Char × Option (List Char)
  | [] => (before.reverse, none)
  | c :: cs =>
    if c = ';' && (before.isEmpty || !quoteOpen before.reverse) then (before.reverse, some cs)
    else firstParameter (c :: before) cs

/-- The parameters of a content type; `fuel` bounds their number. -/
def parameters : (fuel : Nat) → List Char → List (List Char)
  | 0, _ => []
  | fuel + 1, cs =>
    match firstParameter [] cs with
    | (p, none) => [p]
    | (p, some rest) => p :: parameters fuel rest

/-- The name in small letters and the value of a parameter. -/
def nameAndValue (cs : List Char) : List Char × List Char :=
  let trimmed := Text.trimBy Text.isBlank
  match Text.cutAt '=' cs with
  | (name, none) => (trimmed name, [])
  | (name, some value) => ((Text.lower (String.ofList (trimmed name))).toList, trimmed value)

/-- Characters without backslashes before backslashes and double quotes. -/
def unescaped : List Char → List Char
  | '\\' :: '\\' :: cs => '\\' :: unescaped cs
  | '\\' :: '"' :: cs => '"' :: unescaped cs
  | c :: cs => c :: unescaped cs
  | [] => []

/-- A value without the quotes or angle brackets around it. -/
def unquoted (cs : List Char) : List Char :=
  match cs with
  | '"' :: rest => if rest.getLast? = some '"' then unescaped rest.dropLast else cs
  | '<' :: rest => if rest.getLast? = some '>' then rest.dropLast else cs
  | cs => cs

/-- Characters with percent escapes replaced by the octets they stand for. -/
def percentDecoded : List Char → List Char
  | '%' :: a :: b :: cs =>
    match Text.hexValue? a, Text.hexValue? b with
    | some m, some n => Char.ofNat (m * 16 + n) :: percentDecoded cs
    | _, _ => '%' :: percentDecoded (a :: b :: cs)
  | c :: cs => c :: percentDecoded cs
  | [] => []

/-- The character set that a content type names, in small letters. -/
def charsetName? (contentType : String) : Option String := do
  let cs := contentType.toList
  let params := (parameters (cs.length + 1) cs).map nameAndValue
  let plain := params.find? fun p => Text.lower (String.ofList p.1) == "charset"
  let extended := (params.drop 1).find? fun p =>
    Text.lower (String.ofList p.1) == "charset*"
  let value ← match plain, extended with
    | some p, _ => some (unquoted p.2)
    | none, some p =>
      let decoded := percentDecoded (unquoted p.2)
      match Text.splitOnElem '\'' decoded with
      | _ :: _ :: rest => some (List.intercalate ['\''] rest)
      | _ => some decoded
    | none, none => none
  if value.all (·.toNat < 128) then some (Text.lower (String.ofList value)) else none

/-- The character set in which a body with these fields is read. -/
def bodyCharset (fs : Fields) : Charset :=
  (do Charset.ofName? (← charsetName? (← fs.joined? "content-type"))).getD .utf8

/-- What turns the body of a response with these fields into text.  How it reads
is up to it, apart from bodies that are empty or have no content type. -/
structure TextReader where
  read : Fields → Bytes → Except TextFault String
  read_nil : ∀ fs, read fs [] = .ok ""
  read_untyped : ∀ fs bs, fs.joined? "content-type" = none →
    read fs bs = .ok (Text.ofUtf8Lenient bs)

/-- A body is read in the character set that its content type names; the sets
that are not known here, such as those of East Asian scripts, are read as
UTF-8. -/
def TextReader.standard : TextReader where
  read fs bs := (bodyCharset fs).decode bs
  read_nil fs := by cases bodyCharset fs <;> rfl
  read_untyped fs bs h := by
    have hcharset : bodyCharset fs = .utf8 := by rw [bodyCharset, h]; rfl
    rw [hcharset]
    cases bs <;> rfl

end ProxyTrial.Http
