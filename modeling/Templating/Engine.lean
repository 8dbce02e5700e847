import Templating.Error

/-!
# Engines

An engine keeps one dialect, one interpretation and the subtemplates that it
shares with every template it parses. Its operations give back a changed engine,
and a failed operation gives back none.
-/
namespace Templating

structure Engine where
  dialect : Dialect := .standard
  interpretation : Interpretation := {}
  registry : Registry := []
  deriving Inhabited

/-- Registration of a subtemplate in a template. -/
def Template.add (t : Template) (name : String) (sub : Template) : Except Error Template :=
  match t.registry.add? name sub with
  | some r => .ok (t.withRegistry r)
  | none => .error (.duplicateSubtemplate name)

def Template.addSource (t : Template) (d : Dialect) (name source : String) :
    Except Error Template :=
  match Template.parse d source with
  | .error e => .error (.template e)
  | .ok sub => t.add name sub

/-- Registration of several subtemplates in turn, up to the first name that is taken. -/
def Template.addAll (t : Template) : Registry → Except Error Template
  | [] => .ok t
  | (name, sub) :: rest =>
      match t.add name sub with
      | .error e => .error e
      | .ok t => t.addAll rest

namespace Engine

def share (e : Engine) (name : String) (t : Template) : Except Error Engine :=
  match e.registry.add? name t with
  | some r => .ok { e with registry := r }
  | none => .error (.duplicateSubtemplate name)

def shareSource (e : Engine) (name source : String) : Except Error Engine :=
  match Template.parse e.dialect source with
  | .error cause => .error (.template cause)
  | .ok t => e.share name t

/-- Shares templates in turn. At a name that is taken the others are left out and the
ones before stay. -/
def shareAll (e : Engine) : Registry → Engine × Option Error
  | [] => (e, none)
  | (name, t) :: rest =>
      match e.share name t with
      | .error cause => (e, some cause)
      | .ok e => e.shareAll rest

def attach (e : Engine) (t : Template) : Except Error Template :=
  t.addAll e.registry

def parse (e : Engine) (source : String) : Except Error Template :=
  match Template.parse e.dialect source with
  | .error cause => .error (.template cause)
  | .ok t => e.attach t

def render (e : Engine) (t : Template) (model : Value) : Except (Fault Error) String :=
  match e.interpretation.render t model with
  | .ok document => .ok document
  | .error cause => .error (cause.map Error.rendering)

def process (e : Engine) (source : String) (model : Value) : Except (Fault Error) String :=
  match e.parse source with
  | .error cause => .error (.failure cause)
  | .ok t => e.render t model

/-- The paths of a model, each between the tags of the dialect. -/
def discover (e : Engine) (model : Value) (depth : Nat) : Except Error (List String) :=
  match e.interpretation.extractor.discover model depth with
  | .error cause => .error (.access cause)
  | .ok paths =>
      .ok (paths.map fun p => e.dialect.wording.beginTag ++ p ++ e.dialect.wording.endTag)

end Engine
end Templating
