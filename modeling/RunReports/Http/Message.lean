import RunReports.Http.ContentType
import RunReports.Http.Status
import RunReports.Http.Url
import RunReports.Json.Value
import RunReports.Text.Utf8

/-! # Requests and answers

A request asks for a URL, or sends a form to it. What comes back is an answer, or nothing but
the report of a failure on the way. The text of an answer is read in the character set its
content type names, leniently where that is a known one. A host has readers for many others, some of
which fail; what such a reader makes of the answer comes with it. -/
namespace RunReports.Http

open RunReports.Text

/-- One part of a form: a file with its name and content type. -/
structure FormPart where
  name : String
  fileName : String
  contentType : String
  content : List Char
  deriving Repr, DecidableEq

inductive Request
  | get (url : Url)
  | post (url : Url) (form : List FormPart)
  deriving Repr, DecidableEq

def Request.url : Request → Url
  | .get url => url
  | .post url _ => url

/-- An answer to a request. `foreign` is what the host makes of its text, or complains about it,
where the content type names a character set that is not known here. -/
structure Response where
  status : Int
  body : List UInt8
  contentType : Option String
  foreign : Except String String
  deriving Repr

/-- What comes of a request: an answer, or a failure with its description. -/
inductive Outcome
  | answered (response : Response)
  | failed (description : String)
  deriving Repr

def FormPart.text (boundary : List Char) (part : FormPart) : List Char :=
  '-' :: '-' :: boundary ++
    ("\r\nContent-Disposition: form-data; name=\"" ++ part.name ++ "\"; filename=\"" ++
      part.fileName ++ "\"\r\nContent-Type: " ++ part.contentType ++ "\r\n\r\n").toList ++
    part.content ++ ['\r', '\n']

def formBody (boundary : List Char) (form : List FormPart) : List Char :=
  form.flatMap (FormPart.text boundary) ++ '-' :: '-' :: boundary ++ ['-', '-', '\r', '\n']

def formContentType (boundary : List Char) : String :=
  "multipart/form-data; boundary=" ++ String.ofList boundary

/-- The text of an answer, or the complaint of the host. Nothing is read where there is no body. -/
def Response.text (r : Response) : Except String String :=
  match charset? r.contentType with
  | some known => .ok (String.ofList (known.decodeLossy r.body))
  | none => if r.body.isEmpty then .ok "" else r.foreign

end RunReports.Http
