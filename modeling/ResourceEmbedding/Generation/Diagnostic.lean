import ResourceEmbedding.Json.Form
import ResourceEmbedding.Text.Keyword
import ResourceEmbedding.Text.Quoted

namespace ResourceEmbedding

inductive Severity
  | note
  | warning
  | error
deriving DecidableEq, Repr

namespace Severity

def all : List Severity := [.note, .warning, .error]

def name : Severity → String
  | .note => "note"
  | .warning => "warning"
  | .error => "error"

def logLevel : Severity → String
  | .note => "INFO"
  | .warning => "WARN"
  | .error => "ERROR"

instance : JsonForm Severity := .ofNames all name

end Severity

-- The element that a group of resources is declared on.
structure Site where
  element : String := ""
  annotation : Option String := none
deriving DecidableEq, Repr

namespace Site

def toText (site : Site) : String :=
  match site.annotation with
  | some annotation => s!"@{annotation} {site.element}"
  | none => site.element

def describe (site : Site) : String :=
  let annotation := match site.annotation with
    | some annotation => s!"Some({Text.quoted annotation})"
    | none => "None"
  s!"Site \x7b element: {Text.quoted site.element}, annotation: {annotation} \x7d"

-- An absent annotation is left out.
instance : JsonForm Site where
  toJson site := .object (("element", toJson site.element) ::
    (site.annotation.toList.map fun annotation => ("annotation", toJson annotation)))
  ofJson? j := do
    return ⟨← j.required? "element", ← j.optional? "annotation"⟩

end Site

structure Diagnostic where
  severity : Severity
  message : String
  site : Option Site := none
deriving DecidableEq, Repr

namespace Diagnostic

def toText (d : Diagnostic) : String :=
  match d.site with
  | some site => s!"{d.severity.name}: {site.toText}: {d.message}"
  | none => s!"{d.severity.name}: {d.message}"

def logRecord (d : Diagnostic) : String × String :=
  (d.severity.logLevel, d.toText)

instance : JsonForm Diagnostic where
  toJson d := .object ([("severity", toJson d.severity), ("message", toJson d.message)] ++
    (d.site.toList.map fun site => ("site", toJson site)))
  ofJson? j := do
    return ⟨← j.required? "severity", ← j.required? "message", ← j.optional? "site"⟩

end Diagnostic

inductive ReportLevel
  | ignore
  | warning
  | error
deriving DecidableEq, Repr

namespace ReportLevel

def all : List ReportLevel := [.ignore, .warning, .error]

def name : ReportLevel → String
  | .ignore => "ignore"
  | .warning => "warning"
  | .error => "error"

def read : String → Except UnknownKeyword ReportLevel :=
  readKeyword "report level" all name

def severity? : ReportLevel → Option Severity
  | .ignore => none
  | .warning => some .warning
  | .error => some .error

instance : Inhabited ReportLevel := ⟨.error⟩

instance : JsonForm ReportLevel := .ofNames all name

end ReportLevel

end ResourceEmbedding
