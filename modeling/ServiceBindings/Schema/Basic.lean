/-!
What a schema is made of: services with their methods, enumerations with their constants, and messages with their
fields. A type is a scalar or the name of an enumeration or message.
-/

namespace ServiceBindings

/-- How requests and responses of a method follow each other. -/
inductive CallPattern
  /-- one request, one response -/
  | unary
  /-- no response beyond success or failure -/
  | fireAndForget
  /-- one request, many responses -/
  | serverStreaming
  /-- many requests, one response -/
  | clientStreaming
  /-- requests and responses independent of each other -/
  | bidiStreaming
  deriving DecidableEq, Repr

namespace CallPattern

/-- All patterns, in their order. -/
def all : List CallPattern :=
  [.unary, .fireAndForget, .serverStreaming, .clientStreaming, .bidiStreaming]

/-- The name of a pattern in schemas and messages. -/
def name : CallPattern → String
  | .unary => "UNARY"
  | .fireAndForget => "FIRE_AND_FORGET"
  | .serverStreaming => "SERVER_STREAMING"
  | .clientStreaming => "CLIENT_STREAMING"
  | .bidiStreaming => "BIDI_STREAMING"

/-- The name of a pattern in generated code. -/
def constant : CallPattern → String
  | .unary => "Unary"
  | .fireAndForget => "FireAndForget"
  | .serverStreaming => "ServerStreaming"
  | .clientStreaming => "ClientStreaming"
  | .bidiStreaming => "BidiStreaming"

/-- The pattern of a name. -/
def ofName? (s : String) : Option CallPattern :=
  all.find? (·.name == s)

/-- Whether requests or responses form a stream. -/
def isStreaming : CallPattern → Bool
  | .unary | .fireAndForget => false
  | .serverStreaming | .clientStreaming | .bidiStreaming => true

end CallPattern

/-- The verb of an HTTP request. -/
inductive Verb
  | get
  | post
  deriving DecidableEq, Repr

namespace Verb

/-- All verbs, in their order. -/
def all : List Verb := [.get, .post]

/-- The name of a verb in requests. -/
def name : Verb → String
  | .get => "GET"
  | .post => "POST"

/-- The name of a verb in generated code. -/
def constant : Verb → String
  | .get => "Get"
  | .post => "Post"

/-- The verb of a name. -/
def ofName? (s : String) : Option Verb :=
  all.find? (·.name == s)

/-- Whether requests with this verb carry a body. -/
def hasBody : Verb → Bool
  | .get => false
  | .post => true

end Verb

/-- The type of a payload, a field or a path parameter. -/
inductive DataType
  | string
  | bool
  | i32
  | i64
  | u32
  | u64
  | f32
  | f64
  /-- an enumeration or message of the schema -/
  | named (name : String)
  deriving DecidableEq, Repr

namespace DataType

/-- The scalars, in their order. -/
def scalars : List DataType :=
  [.string, .bool, .i32, .i64, .u32, .u64, .f32, .f64]

/-- The name of a scalar in schemas, and of the one variant that carries a name. -/
def keyword : DataType → String
  | .string => "string"
  | .bool => "bool"
  | .i32 => "i32"
  | .i64 => "i64"
  | .u32 => "u32"
  | .u64 => "u64"
  | .f32 => "f32"
  | .f64 => "f64"
  | .named _ => "named"

/-- The name that a type refers to. -/
def name? : DataType → Option String
  | .named n => some n
  | _ => none

/-- Whether a type is a scalar. -/
def isScalar (t : DataType) : Bool :=
  t.name?.isNone

end DataType

/-- A value that a method puts into the path of its request. -/
structure PathParameter where
  name : String
  type : DataType
  deriving DecidableEq, Repr

/-- A method of a service. -/
structure Method where
  name : String
  pattern : CallPattern
  request : Option DataType := none
  response : Option DataType := none
  pathParams : List PathParameter := []
  /-- the path segment, where it is not the one that the name yields -/
  httpSegment : Option String := none
  description : Option String := none
  deriving DecidableEq, Repr

/-- A service: methods in order. -/
structure Service where
  name : String
  description : Option String := none
  methods : List Method := []
  deriving DecidableEq, Repr

/-- A constant of an enumeration and the text that stands for it on the wire. -/
structure Constant where
  name : String
  value : String
  deriving DecidableEq, Repr

/-- An enumeration: constants in order. -/
structure Enumeration where
  name : String
  description : Option String := none
  constants : List Constant := []
  deriving DecidableEq, Repr

/-- A field of a message. -/
structure Field where
  name : String
  type : DataType
  required : Bool := false
  deriving DecidableEq, Repr

/-- A message: fields in order. -/
structure Message where
  name : String
  description : Option String := none
  fields : List Field := []
  deriving DecidableEq, Repr

namespace Method

/-- The types that a method mentions: its request, its response, its path parameters. -/
def types (m : Method) : List DataType :=
  m.request.toList ++ m.response.toList ++ m.pathParams.map (·.type)

end Method

/-- The method of a name. -/
def Service.method? (s : Service) (name : String) : Option Method :=
  s.methods.find? (·.name == name)

namespace Enumeration

/-- The wire value of a constant. -/
def valueOf? (e : Enumeration) (name : String) : Option String :=
  (e.constants.find? (·.name == name)).map (·.value)

/-- The constant of a wire value. -/
def constantFor? (e : Enumeration) (value : String) : Option Constant :=
  e.constants.find? (·.value == value)

end Enumeration

end ServiceBindings
