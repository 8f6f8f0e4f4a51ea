import ExtractionSchema.Service.Builder
import ExtractionSchema.Service.Processing
import ExtractionSchema.Settings
import ExtractionSchema.Text.Encoding

namespace ExtractionSchema

inductive Route where
  | health
  | templates
  | template (key : String)
  | starter
  | options
  | compile
  | resolve
  | edit
  | process
  deriving DecidableEq,Repr

namespace Route

def method : Route → String
  | .health | .templates | .template _ | .starter | .options => "GET"
  | .compile | .resolve | .edit | .process => "POST"

def ofSegments? : List String → Option Route
  | ["health"] => some .health
  | ["templates"] => some .templates
  | ["templates",key] => if key.isEmpty then none else some (.template key)
  | ["schema","default"] => some .starter
  | ["schema","options"] => some .options
  | ["schema","compile"] => some .compile
  | ["schema","resolve"] => some .resolve
  | ["schema","edit"] => some .edit
  | ["process"] => some .process
  | _ => none

def withoutHost : List Char → List Char
  | '/' :: '/' :: rest => rest.dropWhile (· != '/')
  | path => path

-- The segments without the dots, with those already passed in front, the last one first. Two dots
-- take back the segment before them, and nothing goes above the start.
def walk (passed : List (List Char)) : List (List Char) → List (List Char)
  | [] => passed.reverse
  | segment :: rest =>
    if segment = ['.'] then walk passed rest
    else if segment = ['.','.'] then walk (if passed = [[]] then passed else passed.drop 1) rest
    else walk (segment :: passed) rest

-- The path of a target, decoded. What follows a question mark or a number sign is not part of it.
def pathOf (target : String) : List Char :=
  let proper := target.toList.takeWhile fun c => c != '?' && c != '#'
  let rooted := '/' :: (withoutHost proper).dropWhile (· == '/')
  let walked := (walk [] (rooted.splitOn '/')).intersperse ['/']
  Text.percentDecode (Text.percentDecode walked.flatten)

def ofPath? (path : List Char) : Option Route :=
  match path.splitOn '/' with
  | [] :: segments => ofSegments? (segments.map String.ofList)
  | _ => none

def ofTarget? (target : String) : Option Route :=
  let path := pathOf target
  (ofPath? path).or <|
    if path.getLast? = some '\n' then ofPath? path.dropLast else none

end Route

structure Request where
  method : String
  target : String
  body : Body
  deriving DecidableEq,Repr

def Settings.client (settings : Settings) (room : Json.Room) (charsets : Text.Charsets) : Client :=
  { url := settings.url
    timeout := .float settings.timeout
    attempts := settings.attempts
    delay := Client.defaultDelay
    room := room
    charsets := charsets }

namespace Service

def respond (client : Client) (route : Route) (body : Body) (outcomes : Nat → Outcome) : Reaction :=
  match route with
  | .health => .only (.ok Builder.health)
  | .templates => .only (.ok Builder.templates)
  | .template key => .only (.ok (Builder.template key))
  | .starter => .only (.ok (Builder.treeAnswer .starter))
  | .options => .only (.ok Builder.options)
  | .compile => .only (Builder.onBody client.room body Builder.readTreeRequest (.ok <| Builder.compile ·))
  | .resolve => .only (Builder.onBody client.room body Builder.readResolveRequest Builder.resolve)
  | .edit => .only (Builder.onBody client.room body Builder.readEditRequest Builder.edit)
  | .process => Processing.run client body outcomes

-- A request that no place answers. One for the head alone is told the status only.
def refuse (method : String) (status : Int) (text : String) : Reaction :=
  let answer := Answer.detail status text
  .only (.ok (if method = "HEAD" then { answer with body := none } else answer))

-- The outcomes are those of the posts that the request may lead to. Methods are compared in upper
-- case.
def handle (client : Client) (request : Request) (outcomes : Nat → Outcome) : Reaction :=
  let method := Text.upper request.method
  match Route.ofTarget? request.target with
  | none => refuse method 404 "Not Found"
  | some route =>
    if method = route.method then (respond client route request.body outcomes).sent
    else refuse method 405 "Method Not Allowed"

end Service

end ExtractionSchema
