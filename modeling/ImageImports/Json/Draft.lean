import ImageImports.Json.Token

/-!
# JSON drafts

The value that a text begins with, as far as it can be read. Where the text breaks off or goes
wrong, the value is kept up to that place and every container around it stays open. So a reader
who follows a draft from left to right meets the same things in the same order as one who
follows the text.

## Main definitions

* `Json.Draft`: a value, possibly broken off.
* `Json.Draft.ofTokens`: the draft that a list of tokens begins with.
* `Json.Draft.isWhole`: nothing is broken off.
-/

namespace ImageImports.Json

/-- A JSON value as far as it can be read. A container is closed when its last bracket was
met. Members are kept in order, repeated names included. -/
inductive Draft where
  | null
  | bool (value : Bool)
  | number (literal : Literal)
  | string (pieces : List Piece)
  | array (elements : List Draft) (closed : Bool)
  | object (members : List (Draft × Draft)) (closed : Bool)
  | broken

namespace Draft

/-- A container that is being read, its last entry first. -/
inductive Frame where
  | array (done : List Draft)
  | object (done : List (Draft × Draft))
  | member (done : List (Draft × Draft)) (name : Draft)

/-- What has to come next. -/
inductive Phase where
  | value
  | firstElement
  | firstName
  | name
  | colon
  | separator
  deriving DecidableEq, Repr

/-- A container that ends without its bracket. A name without a value keeps its place. -/
def Frame.breakOff : Frame → Draft
  | .array done => .array done.reverse false
  | .object done => .object done.reverse false
  | .member done name => .object ((name, .broken) :: done).reverse false

/-- A container with one more entry. -/
def Frame.attach (v : Draft) : Frame → Frame
  | .array done => .array (v :: done)
  | .object done => .object done
  | .member done name => .object ((name, v) :: done)

/-- All open containers broken off, the innermost first. -/
def breakOff : List Frame → Draft
  | [] => .broken
  | top :: below => below.foldl (fun inner frame => (frame.attach inner).breakOff) top.breakOff

/-- What a token says of a value that starts with it; a container is not read further. -/
def startingWith : Token → Draft
  | .null => .null
  | .bool b => .bool b
  | .number l => .number l
  | .string pieces => .string pieces
  | .openBracket => .array [] false
  | .openBrace => .object [] false
  | _ => .broken

/-- What one token does to the open containers: reading goes on, the value is complete, or the
token has no place there. -/
inductive Move where
  | on (stack : List Frame) (phase : Phase)
  | complete (v : Draft)
  | stuck (v : Draft)

/-- A complete value takes its place in the innermost open container. -/
def place (v : Draft) : List Frame → Move
  | [] => .complete v
  | top :: below => .on (top.attach v :: below) .separator

/-- A token where a value has to start. -/
def startValue (stack : List Frame) : Token → Move
  | .openBracket => .on (.array [] :: stack) .firstElement
  | .openBrace => .on (.object [] :: stack) .firstName
  | .null => place .null stack
  | .bool b => place (.bool b) stack
  | .number l => place (.number l) stack
  | .string pieces => place (.string pieces) stack
  | _ => .stuck (breakOff stack)

/-- A token where the name of a member has to come. Anything but a string breaks the object off
after it. -/
def startName (stack : List Frame) (token : Token) : Move :=
  match stack, token with
  | .object done :: below, .string pieces => .on (.member done (.string pieces) :: below) .colon
  | .object done :: below, other => .stuck (breakOff (.member done (startingWith other) :: below))
  | _, _ => .stuck (breakOff stack)

/-- The end of a container. -/
def close (stack : List Frame) (token : Token) : Move :=
  match stack, token with
  | .array done :: below, .closeBracket => place (.array done.reverse true) below
  | .object done :: below, .closeBrace => place (.object done.reverse true) below
  | _, _ => .stuck (breakOff stack)

/-- What a token does in a phase. -/
def move (stack : List Frame) (phase : Phase) (token : Token) : Move :=
  match phase with
  | .value => startValue stack token
  | .firstElement =>
    match token with
    | .closeBracket => close stack token
    | _ => startValue stack token
  | .firstName =>
    match token with
    | .closeBrace => close stack token
    | _ => startName stack token
  | .name => startName stack token
  | .colon =>
    match token with
    | .colon => .on stack .value
    | _ => .stuck (breakOff stack)
  | .separator =>
    match stack, token with
    | .array _ :: _, .comma => .on stack .value
    | .object _ :: _, .comma => .on stack .name
    | _, _ => close stack token

/-- Reads the value that is under way inside the open containers. -/
def build (stack : List Frame) (phase : Phase) : List Token → Draft × List Token
  | [] => (breakOff stack, [])
  | token :: rest =>
    match move stack phase token with
    | .on stack phase => build stack phase rest
    | .complete v => (v, rest)
    | .stuck v => (v, token :: rest)

/-- The draft that a list of tokens begins with, and the tokens after it. -/
def ofTokens (tokens : List Token) : Draft × List Token := build [] .value tokens

/-- Nothing of the value is broken off. A broken place leaves every container around it open, so
the outermost bracket decides. -/
def isWhole : Draft → Bool
  | .array _ closed => closed
  | .object _ closed => closed
  | .broken => false
  | _ => true

end Draft

end ImageImports.Json
