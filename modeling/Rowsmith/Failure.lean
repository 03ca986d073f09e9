/-
Failures: the rejections of an input, as chains of links. The outermost
link tells what was being attempted and the last one, the root, what went
wrong; a message lists the links from the outside in.

A failure becomes the context of another one by `context`. A fresh
outer failure takes the other as its cause; one that has a cause of its
own, or that somebody else still holds, is not altered but becomes the
report of a new link. `Failure.Shelf` keeps track of who holds what.
-/

namespace Rowsmith

/-- What one link of a failure reports. -/
inductive Report
  -- A message without a kind of its own.
  | adhoc (text : String)
  -- The models cannot be turned into a schema.
  | structural (text : String)
  -- A type cannot be described.
  | introspection (type text : String)
  -- Which model, and which field of it, was being processed.
  | processing (model : String) (field : Option String)
  -- A failure from outside, with the messages of its own causes.
  | foreign (text : String) (causes : List String)
deriving DecidableEq, Repr

def Report.text : Report → String
  | .adhoc text => text
  | .structural text => "invalid model: " ++ text
  | .introspection type text => "cannot introspect `" ++ type ++ "`: " ++ text
  | .processing model none => "processing model `" ++ model ++ "`"
  | .processing model (some field) =>
    "processing model `" ++ model ++ "`, field `" ++ field ++ "`"
  | .foreign text _ => text

/-- A chain of links, outermost first. A link reports something itself,
or stands for a failure that was taken over whole. -/
inductive Failure
  | link (report : Report) (cause : Option Failure)
  | taken (outer : Failure) (cause : Option Failure)
deriving Repr

namespace Failure

def ofReport (report : Report) : Failure := .link report none

/-- A message without a kind of its own. -/
def adhoc (text : String) : Failure := ofReport (.adhoc text)

/-- The models cannot be turned into a schema. -/
def structural (text : String) : Failure := ofReport (.structural text)

def introspection (type text : String) : Failure := ofReport (.introspection type text)

/-- The context of whatever fails while a model is processed. -/
def processing (model : String) (field : Option String) : Failure :=
  ofReport (.processing model field)

def cause? : Failure → Option Failure
  | .link _ cause => cause
  | .taken _ cause => cause

/-- The report of the outermost link, unless it stands for another
failure. -/
def report? : Failure → Option Report
  | .link report _ => some report
  | .taken _ _ => none

/-- The message: the texts of all links, outermost first. -/
def message : Failure → String
  | .link report none => report.text
  | .link report (some cause) => report.text ++ ": " ++ message cause
  | .taken outer none => message outer
  | .taken outer (some cause) => message outer ++ ": " ++ message cause

/-- The last link, which is what went wrong. -/
def root : Failure → Failure
  | .link report none => .link report none
  | .link _ (some cause) => root cause
  | .taken outer none => .taken outer none
  | .taken _ (some cause) => root cause

/-- The model and field recorded by the outermost link that records
them. Links taken over whole are not searched. -/
def modelContext? : Failure → Option (String × Option String)
  | .link (.processing model field) _ => some (model, field)
  | .link _ (some cause) => modelContext? cause
  | .taken _ (some cause) => modelContext? cause
  | _ => none

/-- The outermost link reports that the models make no schema. -/
def isStructural (e : Failure) : Bool :=
  match e.report? with
  | some (.structural _) => true
  | _ => false

/-- The outermost link reports that a type cannot be described. -/
def isIntrospection (e : Failure) : Bool :=
  match e.report? with
  | some (.introspection _ _) => true
  | _ => false

/-- The messages of the failure from outside that the outermost link
wraps: its own, then those of its causes. -/
def sources (e : Failure) : List String :=
  match e.report? with
  | some (.foreign text causes) => text :: causes
  | _ => []

/-- Puts `outer` in front of a failure. When `outer` has no cause yet and
nobody else holds it, it takes the failure as its cause; otherwise it
becomes the report of a new link. -/
def context (e outer : Failure) (exclusive : Bool) : Failure :=
  match outer, exclusive with
  | .link report none, true => .link report (some e)
  | .taken inner none, true => .taken inner (some e)
  | outer, _ => .taken outer (some e)

/-- Records the model and field that were being processed. -/
def whileProcessing (e : Failure) (model : String) (field : Option String) : Failure :=
  e.context (processing model field) true

end Failure

end Rowsmith
