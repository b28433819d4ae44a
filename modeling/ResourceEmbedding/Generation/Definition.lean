import ResourceEmbedding.KeyMap
import ResourceEmbedding.Template.Shape

namespace ResourceEmbedding

-- The namespace of a symbol; only symbols of one kind can collide.
inductive SymbolKind
  | constant
  | member
deriving DecidableEq, Repr

namespace SymbolKind

def all : List SymbolKind := [.constant, .member]

def name : SymbolKind → String
  | .constant => "constant"
  | .member => "member"

instance : JsonForm SymbolKind := .ofNames all name

end SymbolKind

structure MessageParam where
  name : String
  kind : ArgumentKind
deriving DecidableEq, Repr

instance : JsonForm MessageParam where
  toJson p := .object [("name", toJson p.name), ("kind", toJson p.kind)]
  ofJson? j := do
    return ⟨← j.required? "name", ← j.required? "kind"⟩

structure MessageFunction where
  name : String
  -- The path of the bundle, without locale and extension.
  bundle : String
  key : String
  params : List MessageParam
  localeParam : Bool
  timeZoneParam : Bool
  -- The template of each locale; the tag of the default locale is empty.
  templates : KeyMap String

namespace MessageFunction

def fields (f : MessageFunction) : List (String × Json) :=
  [("name", toJson f.name), ("bundle", toJson f.bundle), ("key", toJson f.key),
    ("params", toJson f.params), ("locale_param", toJson f.localeParam),
    ("time_zone_param", toJson f.timeZoneParam), ("templates", toJson f.templates)]

instance : JsonForm MessageFunction where
  toJson f := .object f.fields
  ofJson? j := do
    return ⟨← j.required? "name", ← j.required? "bundle", ← j.required? "key",
      ← j.required? "params", ← j.required? "locale_param", ← j.required? "time_zone_param",
      ← j.required? "templates"⟩

end MessageFunction

inductive Definition
  | textConstant (name resource : String) (segments : List String) (encodedLength : Nat)
  -- Binary content, a character below 256 for each byte.
  | bytesConstant (name resource : String) (segments : List String) (length : Nat)
  | lazyAccessor (name resource : String) (binary : Bool)
  | pathConstant (name resource : String)
  | messageFunction (function : MessageFunction)

namespace Definition

def symbol : Definition → String
  | textConstant name .. | bytesConstant name .. | lazyAccessor name .. | pathConstant name .. =>
    name
  | messageFunction f => f.name

def symbolKind : Definition → SymbolKind
  | textConstant .. | bytesConstant .. | pathConstant .. => .constant
  | lazyAccessor .. | messageFunction _ => .member

def origin : Definition → String
  | textConstant _ resource .. | bytesConstant _ resource .. | lazyAccessor _ resource ..
  | pathConstant _ resource => resource
  | messageFunction f => s!"{f.bundle}#{f.key}"

instance : JsonForm Definition where
  toJson
    | textConstant name resource segments encodedLength =>
      .object [("kind", .string "text_constant"), ("name", toJson name),
        ("resource", toJson resource), ("segments", toJson segments),
        ("encoded_len", toJson encodedLength)]
    | bytesConstant name resource segments length =>
      .object [("kind", .string "bytes_constant"), ("name", toJson name),
        ("resource", toJson resource), ("segments", toJson segments), ("len", toJson length)]
    | lazyAccessor name resource binary =>
      .object [("kind", .string "lazy_accessor"), ("name", toJson name),
        ("resource", toJson resource), ("binary", toJson binary)]
    | pathConstant name resource =>
      .object [("kind", .string "path_constant"), ("name", toJson name),
        ("resource", toJson resource)]
    | messageFunction f => .object (("kind", .string "message_function") :: f.fields)
  ofJson? j := do
    match (← j.required? "kind" : String) with
    | "text_constant" =>
      return .textConstant (← j.required? "name") (← j.required? "resource")
        (← j.required? "segments") (← j.required? "encoded_len")
    | "bytes_constant" =>
      return .bytesConstant (← j.required? "name") (← j.required? "resource")
        (← j.required? "segments") (← j.required? "len")
    | "lazy_accessor" =>
      return .lazyAccessor (← j.required? "name") (← j.required? "resource")
        (← j.required? "binary")
    | "path_constant" => return .pathConstant (← j.required? "name") (← j.required? "resource")
    | "message_function" => return .messageFunction (← ofJson? j)
    | _ => none

end Definition

end ResourceEmbedding
