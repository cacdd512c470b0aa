import Switchboard.Call.Context

set_option autoImplicit false

/-!
# Histories of tokens and contexts

Any number of holders make, copy, tighten and cancel tokens and contexts in any order.  A history
is such a sequence of acts on handles with names; a desk holds what the names stand for.
-/

namespace Switchboard.Call

/-- One act of a holder. -/
inductive Act where
  /-- a token of a new family -/
  | token (name : String)
  /-- a copy of a token -/
  | cloneToken (name source : String)
  /-- a copy of the token of a context -/
  | tokenOf (name source : String)
  /-- a token is cancelled -/
  | cancel (name : String)
  /-- a token is asked whether its family was cancelled -/
  | isCancelled (name : String)
  /-- a context with a named token, or with one of a new family -/
  | context (name : String) (token : Option String) (deadline : Deadline)
  /-- a copy of a context -/
  | clone (name source : String)
  /-- a context like another one, with an earlier deadline -/
  | tighten (name source : String) (deadline : Deadline)
  /-- a context is looked at -/
  | inspect (name : String)
  /-- the token of a context is cancelled -/
  | cancelContext (name : String)
  /-- two deadlines are compared -/
  | earlier (d e : Deadline)
  deriving Repr

/-- What a context looks like at a moment. -/
structure View where
  cancelled : Bool
  deadline : Deadline
  expired : Bool
  description : Option String
  deriving DecidableEq, Repr

/-- What an act is answered with. -/
inductive Reply where
  | done
  | flag (value : Bool)
  | view (value : View)
  | deadline (value : Deadline) (expired isFirst isSecond : Bool)
  /-- a name that stands for nothing -/
  | unknown (name : String)
  deriving Repr

/-- What the names stand for, and which families were cancelled. -/
structure Desk where
  tokens : Tokens := {}
  tokenNames : List (String × Token) := []
  contextNames : List (String × Context) := []
  deriving Repr, Inhabited

namespace Desk

/-- The token with a name. -/
def token? (d : Desk) (name : String) : Option Token := d.tokenNames.lookup name

/-- The context with a name. -/
def context? (d : Desk) (name : String) : Option Context := d.contextNames.lookup name

/-- Gives a name to a token. -/
def nameToken (d : Desk) (name : String) (t : Token) : Desk :=
  { d with tokenNames := (name, t) :: d.tokenNames }

/-- Gives a name to a context. -/
def nameContext (d : Desk) (name : String) (c : Context) : Desk :=
  { d with contextNames := (name, c) :: d.contextNames }

/-- What the desk knows at an instant. -/
def moment (d : Desk) (now : Int) : Moment := { now := now, tokens := d.tokens }

/-- What a context looks like. -/
def view (d : Desk) (now : Int) (c : Context) : View :=
  let m := d.moment now
  { cancelled := c.isCancelled m, deadline := c.deadline, expired := c.isExpired m,
    description := c.describe? m }

/-- Names a context and shows it. -/
def introduce (d : Desk) (now : Int) (name : String) (c : Context) : Desk × Reply :=
  let d := d.nameContext name c
  (d, .view (d.view now c))

/-- Cancels the family of a token. -/
def cancel (d : Desk) (t : Token) : Desk × Reply :=
  let (first, tokens) := d.tokens.cancel t
  ({ d with tokens := tokens }, .flag first)

/-- A context with a token or without, under a name. -/
def build (d : Desk) (now : Int) (name : String) (token : Option Token)
    (deadline : Deadline) : Desk × Reply :=
  let (c, tokens) := Context.build d.tokens token deadline
  { d with tokens := tokens }.introduce now name c

/-- One act at an instant. -/
def act (d : Desk) (now : Int) : Act → Desk × Reply
  | .token name =>
    let (t, tokens) := d.tokens.issue
    ({ d with tokens := tokens }.nameToken name t, .done)
  | .cloneToken name source =>
    match d.token? source with
    | some t => (d.nameToken name t, .done)
    | none => (d, .unknown source)
  | .tokenOf name source =>
    match d.context? source with
    | some c => (d.nameToken name c.token, .done)
    | none => (d, .unknown source)
  | .cancel name =>
    match d.token? name with
    | some t => d.cancel t
    | none => (d, .unknown name)
  | .isCancelled name =>
    match d.token? name with
    | some t => (d, .flag (d.tokens.isCancelled t))
    | none => (d, .unknown name)
  | .context name none deadline => d.build now name none deadline
  | .context name (some token) deadline =>
    match d.token? token with
    | some t => d.build now name (some t) deadline
    | none => (d, .unknown token)
  | .clone name source =>
    match d.context? source with
    | some c => d.introduce now name c
    | none => (d, .unknown source)
  | .tighten name source deadline =>
    match d.context? source with
    | some c => d.introduce now name (c.tighten deadline)
    | none => (d, .unknown source)
  | .inspect name =>
    match d.context? name with
    | some c => (d, .view (d.view now c))
    | none => (d, .unknown name)
  | .cancelContext name =>
    match d.context? name with
    | some c => d.cancel c.token
    | none => (d, .unknown name)
  | .earlier a b =>
    let e := a.earlier b
    (d, .deadline e (e.isExpired now) (decide (e = a)) (decide (e = b)))

/-- The replies to a history. -/
def run (d : Desk) (now : Int) : List Act → List Reply
  | [] => []
  | a :: rest =>
    let (d, reply) := d.act now a
    reply :: run d now rest

end Desk

end Switchboard.Call
