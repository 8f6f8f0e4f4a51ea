import ExtractionSchema.Client
import ExtractionSchema.Text
import ExtractionSchema.Text.Encoding
import ExtractionSchema.Text.Quoted
import ExtractionSchema.Text.Uppercase

namespace ExtractionSchema

inductive Part where
  | text (name content : String)
  | file (name : String) (document : Document)
  deriving DecidableEq,Repr

def Part.name : Part → String
  | .text name _ => name
  | .file name _ => name

abbrev Form := List Part

namespace Form

-- Of several parts of one name the last one counts.
def part? (name : String) (form : Form) : Option Part := form.reverse.find? (·.name == name)

end Form

namespace FileName

def escapeChar (c : Char) : List Char :=
  if c = '"' ∨ (c.toNat < 0x20 ∧ c.toNat ≠ 0x1B) then
    '%' :: (Text.hex 2 c.toNat).map Char.toUpper
  else [c]

def lastPart (name : List Char) : List Char :=
  match name with
  | '\\' :: '\\' :: _ | _ :: ':' :: '\\' :: _ =>
    (name.reverse.takeWhile (· != '\\')).reverse
  | _ => name

def mediaTypes : List (String × String) := [
  ("bmp","image/bmp"),("csv","text/csv"),("doc","application/msword"),
  ("eml","message/rfc822"),("gif","image/gif"),("heic","image/heic"),("htm","text/html"),
  ("html","text/html"),("ico","image/vnd.microsoft.icon"),("jpe","image/jpeg"),
  ("jpeg","image/jpeg"),("jpg","image/jpeg"),("json","application/json"),
  ("pdf","application/pdf"),("png","image/png"),("ppt","application/vnd.ms-powerpoint"),
  ("svg","image/svg+xml"),("tar","application/x-tar"),("tif","image/tiff"),
  ("tiff","image/tiff"),("tsv","text/tab-separated-values"),("txt","text/plain"),
  ("xls","application/vnd.ms-excel"),("xml","text/xml"),("zip","application/zip")]

def ending (name : List Char) : String :=
  let reversed := name.reverse.takeWhile (· != '/')
  let tail := reversed.takeWhile (· != '.')
  if ((reversed.drop (tail.length + 1)).all (· == '.')) then ""
  else Text.lowerAscii (String.ofList tail.reverse)

def mediaType (name : List Char) : String :=
  (mediaTypes.lookup (ending name)).getD Client.defaultMediaType

end FileName

namespace Part

def arrivedMediaType (mediaType : String) : String :=
  Text.octetChars (String.ofList (mediaType.toList.dropWhile (· == ' ')))

-- The part that arrives when a file is attached. Without a file name its content arrives as a
-- text; without a media type the file name suggests one.
def attached (name : String) (filename : Option String) (content : String)
    (mediaType : Option String) : Part :=
  match filename with
  | none => .text name content
  | some filename =>
    if filename.isEmpty then .text name content
    else
      let arrived := FileName.lastPart (filename.toList.flatMap FileName.escapeChar)
      .file name ⟨content,String.ofList arrived,
        some ((mediaType.map arrivedMediaType).getD (FileName.mediaType filename.toList))⟩

end Part

inductive FormFault where
  | malformed
  | noBoundary
  | unnamedPart
  deriving DecidableEq,Repr

namespace Multipart

-- The pieces of a header's value. A semicolon between quotes separates nothing.
def optionPieces : Bool → List Char → List Char → List (List Char)
  | _,piece,[] => [piece.reverse]
  | quoted,piece,'\\' :: '"' :: rest => optionPieces quoted ('"' :: '\\' :: piece) rest
  | quoted,piece,'"' :: rest => optionPieces (!quoted) ('"' :: piece) rest
  | quoted,piece,';' :: rest =>
    if quoted then optionPieces quoted (';' :: piece) rest
    else piece.reverse :: optionPieces false [] rest
  | quoted,piece,c :: rest => optionPieces quoted (c :: piece) rest

def dropBackslash (mark : Char) : List Char → List Char
  | '\\' :: c :: rest =>
    if c = mark then mark :: dropBackslash mark rest else '\\' :: dropBackslash mark (c :: rest)
  | c :: rest => c :: dropBackslash mark rest
  | [] => []

-- Backslashes are put right before the quotes are.
def unescape (cs : List Char) : List Char := dropBackslash '"' (dropBackslash '\\' cs)

def unquote (value : List Char) : List Char :=
  match value with
  | '"' :: rest =>
    match rest.reverse with
    | '"' :: inner => unescape inner.reverse
    | _ => value
  | _ => value

def trimmed (cs : List Char) : List Char := Text.trimBy Text.isBlank cs

def lowered (cs : List Char) : String := Text.lowerAscii (String.ofList (trimmed cs))

def optionOf (piece : List Char) : String × String :=
  match piece.span (· != '=') with
  | (key,'=' :: value) => (lowered key,String.ofList (unquote (trimmed value)))
  | _ => (String.ofList (trimmed piece),"")

-- A header's value in front of the first semicolon, in lower case, and the options behind it. Of
-- several options of one name the last one counts, and it stands first here.
def options (value : String) : String × List (String × String) :=
  match optionPieces false [] value.toList with
  | [] => ("",[])
  | head :: rest => (lowered head,(rest.map optionOf).reverse)

def lineEnd : List Char := ['\r','\n']

def isTokenChar (c : Char) : Bool :=
  c.isAlphanum || c == '\'' || c == '\x60' || "!#$%&*+-.^_|~".toList.contains c

abbrev Headers := List (String × String)

-- Where the reading of the headers stands. What has been read of a name or a value is held in
-- reverse.
inductive HeadState where
  | line
  | name (done : List Char)
  | gap (name : List Char)
  | value (name done : List Char)
  | lineFeed
  | lastLineFeed

def header (name value : List Char) : String × String :=
  (Text.lowerAscii (String.ofList name.reverse),String.ofList value.reverse)

def readHeaders (done : Headers) :
    HeadState → List Char → Except FormFault (Option (Headers × List Char))
  | _,[] => .ok none
  | .line,c :: rest =>
    if c = '\r' then readHeaders done .lastLineFeed rest
    else if isTokenChar c then readHeaders done (.name [c]) rest
    else .error .malformed
  | .name name,c :: rest =>
    if c = ':' then readHeaders done (.gap name) rest
    else if isTokenChar c then readHeaders done (.name (c :: name)) rest
    else .error .malformed
  | .gap name,c :: rest =>
    if c = ' ' then readHeaders done (.gap name) rest
    else if c = '\r' then readHeaders (header name [] :: done) .lineFeed rest
    else readHeaders done (.value name [c]) rest
  | .value name value,c :: rest =>
    if c = '\r' then readHeaders (header name value :: done) .lineFeed rest
    else readHeaders done (.value name (c :: value)) rest
  | .lineFeed,c :: rest =>
    if c = '\n' then readHeaders done .line rest else .error .malformed
  | .lastLineFeed,c :: rest =>
    if c = '\n' then .ok (some (done.reverse,rest)) else .error .malformed

def cutContent (delimiter : List Char) : List Char → Option (List Char × List Char)
  | [] => none
  | c :: rest =>
    if (delimiter ++ ['-','-']).isPrefixOf (c :: rest) then some ([],[])
    else if (delimiter ++ lineEnd).isPrefixOf (c :: rest) then
      some ([],rest.drop (delimiter.length + 1))
    else (cutContent delimiter rest).map fun (content,behind) => (c :: content,behind)

abbrev Decoder := String → Except FormFault String

def decoder (charsets : Text.Charsets) (charset : String) : Decoder := fun text =>
  match Text.readAs charsets charset text with
  | some decoded => .ok decoded
  | none => .error .malformed

-- The part that has these headers, by its content. The last header that says how the part is to be
-- taken counts. Names and texts are decoded; a document is kept as it is.
def partOf (decode : Decoder) (headers : Headers) :
    Except FormFault (List Char → Except FormFault Part) :=
  let disposition := (options ((headers.reverse.lookup "content-disposition").getD "")).2
  match disposition.lookup "name" with
  | none => .error .unnamedPart
  | some name =>
    match decode name with
    | .error fault => .error fault
    | .ok name =>
      match disposition.lookup "filename" with
      | none => .ok fun content => (decode (String.ofList content)).map (.text name)
      | some filename =>
        (decode filename).map fun filename content =>
          let arrived := FileName.lastPart filename.toList
          .ok (.file name ⟨String.ofList content,String.ofList arrived,
            (headers.lookup "content-type").map Part.arrivedMediaType⟩)

-- The parts of a text that begins behind a delimiter. The first argument bounds their number, and
-- each has a character of its own at least.
def readParts (decode : Decoder) (delimiter : List Char) :
    Nat → List Char → Except FormFault Form
  | 0,_ => .ok []
  | bound + 1,cs =>
    match readHeaders [] .line cs with
    | .error fault => .error fault
    | .ok none => .ok []
    | .ok (some (headers,rest)) =>
      match partOf decode headers with
      | .error fault => .error fault
      | .ok part =>
        match cutContent delimiter rest with
        | none => .ok []
        | some (content,behind) =>
          match part content with
          | .error fault => .error fault
          | .ok part => (readParts decode delimiter bound behind).map (part :: ·)

-- Line ends in front of the first delimiter are skipped; anything else there is a fault. A text
-- that ends too early to be told from a form has no parts.
def readBetween (decode : Decoder) (boundary text : String) : Except FormFault Form :=
  let dashed := '-' :: '-' :: boundary.toList
  let opening := dashed ++ lineEnd
  let closing := dashed ++ ['-','-']
  let body := text.toList.dropWhile fun c => c == '\r' || c == '\n'
  if opening.isPrefixOf body then
    readParts decode (lineEnd ++ dashed) body.length (body.drop opening.length)
  else if closing.isPrefixOf body || body.isPrefixOf opening || body.isPrefixOf closing then .ok []
  else .error .malformed

def read (charsets : Text.Charsets) (options : List (String × String)) (text : String) :
    Except FormFault Form :=
  match options.lookup "boundary" with
  | none => .error .noBoundary
  | some boundary =>
    readBetween (decoder charsets ((options.lookup "charset").getD "utf-8")) boundary text

end Multipart

end ExtractionSchema
