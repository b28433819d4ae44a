import ResourceEmbedding.Json.Form
import ResourceEmbedding.Text.Blank

namespace ResourceEmbedding

inductive ArgumentKind
  | text
  | number
  | date
deriving DecidableEq, Repr

namespace ArgumentKind

def all : List ArgumentKind := [.text, .number, .date]

def name : ArgumentKind → String
  | .text => "string"
  | .number => "number"
  | .date => "date"

def ofKeyword (word : String) : ArgumentKind :=
  match Text.keyword word with
  | "number" | "choice" => .number
  | "date" | "time" => .date
  | _ => .text

def ofFormat (format : Option String) : ArgumentKind :=
  (format.map ofKeyword).getD .text

-- Whether the argument is formatted by its own rules, and not shown as text.
def isTyped (kind : ArgumentKind) : Bool :=
  kind != .text

instance : Inhabited ArgumentKind := ⟨.text⟩

instance : JsonForm ArgumentKind := .ofNames all name

end ArgumentKind

structure Placeholder where
  index : Nat
  kind : ArgumentKind
  format : Option String
  style : Option String
deriving DecidableEq, Repr

instance : JsonForm Placeholder where
  toJson p := .object [("index", toJson p.index), ("kind", toJson p.kind),
    ("format", toJson p.format), ("style", toJson p.style)]
  ofJson? j := do
    return ⟨← j.required? "index", ← j.required? "kind", ← j.optional? "format",
      ← j.optional? "style"⟩

structure Shape where
  arguments : List ArgumentKind
  placeholders : List Placeholder
deriving DecidableEq, Repr

namespace Shape

-- How many arguments the placeholders reach for: one more than the largest index.
def arity (placeholders : List Placeholder) : Nat :=
  placeholders.foldl (fun n p => max n (p.index + 1)) 0

-- A typed placeholder decides the kind of its argument; the last one wins.
def note (arguments : List ArgumentKind) (p : Placeholder) : List ArgumentKind :=
  if p.kind.isTyped then arguments.set p.index p.kind else arguments

-- The shape of a template with these placeholders. An argument that no typed placeholder mentions
-- is a text.
def ofPlaceholders (placeholders : List Placeholder) : Shape where
  arguments := placeholders.foldl note (List.replicate (arity placeholders) .text)
  placeholders

def needsLocale (s : Shape) : Bool :=
  s.arguments.any (·.isTyped)

def needsTimeZone (s : Shape) : Bool :=
  s.arguments.contains .date

instance : JsonForm Shape where
  toJson s := .object [("vars", toJson s.arguments), ("placeholders", toJson s.placeholders)]
  ofJson? j := do
    return ⟨← j.required? "vars", ← j.required? "placeholders"⟩

end Shape

end ResourceEmbedding
