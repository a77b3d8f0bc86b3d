/-
Routes: where a path leads.

A path leads to a route if it is the path of the route, character by character.  A path that leads
nowhere is looked at once more with every run of slashes made one slash: if that leads to a route,
the client is sent there.  A route that does not allow the method is known all the same, and the
client is told so.
-/
import SqlGuard.Text.Basic

namespace SqlGuard

/-- What a path leads to. -/
inductive Route where
  | page
  /-- A file that is delivered with the page. -/
  | file (name : Text)
  | validate
  | repair
  | health
deriving DecidableEq

namespace Route

/-- Where the files are. -/
def fileFolder : Text :=
  "/static/".toList

/-- The path of a route. -/
def path : Route → Text
  | page => "/".toList
  | file name => fileFolder ++ name
  | validate => "/api/validate".toList
  | repair => "/api/auto-fix".toList
  | health => "/api/health".toList

/-- The methods that a route allows, in alphabetical order. -/
def methods : Route → List String
  | page | file _ | health => ["GET", "HEAD", "OPTIONS"]
  | validate | repair => ["OPTIONS", "POST"]

/-- The routes that the service registers; files are found without. -/
def registered : List Route :=
  [page, validate, repair, health]

/-- Whether a text names a file: it does not start with a slash, and has no line break behind its
first character. -/
def isFileName : Text → Bool
  | [] => false
  | c :: rest => c != '/' && !rest.contains '\n'

/-- The route of a path. -/
def ofPath? (path : Text) : Option Route :=
  match registered.find? (·.path == path) with
  | some route => some route
  | none =>
    let name := path.drop fileFolder.length
    if fileFolder.isPrefixOf path && isFileName name then some (file name) else none

end Route

/-- What becomes of a request for a path. -/
inductive Destination where
  | found (route : Route)
  /-- The client asks which methods the route allows. -/
  | described (route : Route)
  /-- The client is sent to another spelling of the path. -/
  | moved
  /-- The path leads to a route that does not allow the method. -/
  | notAllowed
  | nowhere
deriving DecidableEq

namespace Destination

/-- The path with every run of slashes made one slash. -/
def mergeSlashes (path : Text) : Text :=
  path.foldr (fun c rest => if c == '/' && rest.head? == some '/' then rest else c :: rest) []

/-- The destination of a method at a route. -/
def atRoute (method : String) (route : Route) : Destination :=
  if !route.methods.contains method then notAllowed
  else if method = "OPTIONS" then described route
  else found route

/-- The destination of a method on a path.  The empty path is another spelling of the path of the
page, for the methods that the page allows. -/
def find (method : String) (path : Text) : Destination :=
  if path.isEmpty then
    if Route.page.methods.contains method then moved else nowhere
  else
    match Route.ofPath? path, Route.ofPath? (mergeSlashes path) with
    | some route, _ => atRoute method route
    | none, some route => if route.methods.contains method then moved else notAllowed
    | none, none => nowhere

end Destination

end SqlGuard
