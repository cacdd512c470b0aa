import Switchboard.Scripted.World

set_option autoImplicit false

/-!
# Options and filters that are written down

An option is given by what it carries, and a hook by its label: it notes its calls and then
succeeds, or fails with a given wording.  A filter is given by what it does to the options that it
sees.  A plan is reported with its hook tried once.
-/

namespace Switchboard.Scripted

open World (note record)

/-! ## Options -/

/-- An option as it is written down. -/
inductive Choice where
  | keepAlive (period : Nat)
  /-- a hook, and the wording of its failure if it fails -/
  | control (label : String) (failure : Option String)
  /-- a hook that keeps the socket -/
  | capture (label : String)
  | localAddr (uri : Except Fault Uri) (addr : Option SocketAddr)

namespace Choice

/-- What a hook with a given failure comes to. -/
def outcome : Option String → Except IoFault Unit
  | some wording => .error { kind := .permissionDenied, message := some wording }
  | none => .ok ()

/-- A hook that notes its calls. -/
def hook (label : String) (failure : Option String) : Hook Run where
  run network address _ := do
    note (.hook { label := label, network := network, address := address })
    return outcome failure

/-- A hook that notes its calls and keeps the socket. -/
def keepingHook (label : String) : Hook Run where
  run network address socket := do
    World.keep socket
    (hook label none).run network address socket

/-- The option of a dial that is written down. -/
def forDial : Choice → Except Fault (DialOption (Hook Run))
  | .keepAlive period => .ok (.keepAlive period)
  | .control label failure => .ok (.control (hook label failure))
  | .capture label => .ok (.control (keepingHook label))
  | .localAddr uri addr => uri.map fun uri => .localAddr { uri := uri, addr := addr }

/-- The option of a listen that is written down; a listen has no local address. -/
def forListen? : Choice → Option (ListenOption (Hook Run))
  | .keepAlive period => some (.keepAlive period)
  | .control label failure => some (.control (hook label failure))
  | .capture label => some (.control (keepingHook label))
  | .localAddr .. => none

end Choice

/-- The options of a dial. -/
def dialOptions (choices : List Choice) : Except Fault (List (DialOption (Hook Run))) :=
  choices.mapM Choice.forDial

/-- The options of a listen. -/
def listenOptions (choices : List Choice) : List (ListenOption (Hook Run)) :=
  choices.filterMap Choice.forListen?

/-! ## Filters -/

/-- An option as a filter has seen it. -/
inductive Seen where
  | keepAlive (period : Nat)
  | control
  | localAddr (uri : Text) (addr : Option SocketAddr)
  deriving DecidableEq, Repr

/-- What a filter does to the options that it sees. -/
structure Sieve where
  /-- how many options it has seen when it turns one down -/
  rejectAt : Option Nat := none
  /-- whether it does what the TCP transport does -/
  settles : Bool := false
  /-- the period that it puts into an option of that kind -/
  keepAlive : Option Nat := none
  /-- the socket address that it puts into an option of that kind -/
  addr : Option SocketAddr := none

namespace Sieve

/-- The fault of an option that is turned down. -/
def rejection : Fault := .mechanism "filter" "rejected"

/-- Sees an option; fails if this is the one that is turned down. -/
def see (s : Sieve) (seen : Seen) : StateM (List Seen) (Except Fault Unit) := do
  let before ← get
  set (before ++ [seen])
  return if s.rejectAt = some before.length then .error rejection else .ok ()

/-- How an option of a dial is seen. -/
def seenOfDial {Hook : Type} : DialOption Hook → Seen
  | .keepAlive period => .keepAlive period
  | .control _ => .control
  | .localAddr wanted => .localAddr wanted.uri.print wanted.addr

/-- How an option of a listen is seen. -/
def seenOfListen {Hook : Type} : ListenOption Hook → Seen
  | .keepAlive period => .keepAlive period
  | .control _ => .control

/-- What is put into an option of a dial. -/
def alterDial {Hook : Type} (s : Sieve) : DialOption Hook → DialOption Hook
  | .keepAlive period => .keepAlive (s.keepAlive.getD period)
  | .localAddr wanted => .localAddr { wanted with addr := s.addr.or wanted.addr }
  | option => option

/-- What is put into an option of a listen. -/
def alterListen {Hook : Type} (s : Sieve) : ListenOption Hook → ListenOption Hook
  | .keepAlive period => .keepAlive (s.keepAlive.getD period)
  | option => option

/-- The filter of a dial. -/
def dialFilter {Hook : Type} (s : Sieve) : Filter (StateM (List Seen)) (DialOption Hook) :=
  fun option => do
    match ← s.see (seenOfDial option) with
    | .error fault => return .error fault
    | .ok () =>
      let settled := if s.settles then Tcp.settle option else .ok option
      return settled.map s.alterDial

/-- The filter of a listen. -/
def listenFilter {Hook : Type} (s : Sieve) : Filter (StateM (List Seen)) (ListenOption Hook) :=
  fun option => do
    match ← s.see (seenOfListen option) with
    | .error fault => return .error fault
    | .ok () => return .ok (s.alterListen option)

end Sieve

/-- The filters that a trial can ask for. -/
inductive FilterChoice where
  | none
  /-- the one of the TCP transport -/
  | tcp
  | sieve (s : Sieve)

/-- The plan of a dial, and what the filter has seen. -/
def planDial {Hook : Type} (filter : FilterChoice) (options : List (DialOption Hook)) :
    Except Fault (DialPlan Hook) × Option (List Seen) :=
  match filter with
  | .none => (DialPlan.ofOptions (n := Id) none options, none)
  | .tcp => (DialPlan.ofOptions (n := Id) (some Tcp.filter) options, none)
  | .sieve s =>
    let (made, seen) := (DialPlan.ofOptions (some s.dialFilter) options).run []
    (made, some seen)

/-- The plan of a listen, and what the filter has seen. -/
def planListen {Hook : Type} (filter : FilterChoice) (options : List (ListenOption Hook)) :
    Except Fault (ListenPlan Hook) × Option (List Seen) :=
  match filter with
  | .sieve s =>
    let (made, seen) := (ListenPlan.ofOptions (some s.listenFilter) options).run []
    (made, some seen)
  | _ => (ListenPlan.ofOptions (n := Id) none options, none)

/-! ## Reports -/

/-- The calls of hooks among some notes. -/
def hookCalls (notes : List Note) : List HookCall :=
  notes.filterMap fun
    | .hook call => some call
    | _ => none

/-- Tries a hook on a new socket. -/
def tryHook : Option (Hook Run) → Run (Option HookReport)
  | none => return none
  | some hook => do
    let socket ← World.onHost (Tcp.Loopback.add {})
    let (result, notes) ← record (hook.run "net".toList "127.0.0.1:9".toList socket)
    World.onHost (Tcp.Loopback.release socket)
    return some { calls := hookCalls notes, result := result }

/-- Reports the plan of a dial. -/
def reportDial (plan : DialPlan (Hook Run)) : Run DialReport := do
  return { keepAlive := plan.keepAlive, control := ← tryHook plan.control,
           localAddr := plan.localAddr }

/-- Reports the plan of a listen. -/
def reportListen (plan : ListenPlan (Hook Run)) : Run ListenReport := do
  return { keepAlive := plan.keepAlive, control := ← tryHook plan.control }

/-- Each of the plans that come about when options are applied one after another. -/
def growing {Plan Item : Type} (apply : Plan → Item → Plan) (plan : Plan) :
    List Item → List Plan
  | [] => []
  | item :: rest => apply plan item :: growing apply (apply plan item) rest

/-- What options come to: step by step without a filter, and at once with one. -/
structure Preview (Report : Type) where
  applied : List Report
  made : Except Fault Report
  seen : Option (List Seen)

/-- A plan that was made, reported. -/
def reportMade {Plan Report : Type} (report : Plan → Run Report) :
    Except Fault Plan → Run (Except Fault Report)
  | .error fault => return .error fault
  | .ok plan => return .ok (← report plan)

/-- What the options of a dial come to. -/
def previewDial (filter : FilterChoice) (options : List (DialOption (Hook Run))) :
    Run (Preview DialReport) := do
  let applied ← (growing DialPlan.apply {} options).mapM reportDial
  let (made, seen) := planDial filter options
  return { applied := applied, made := ← reportMade reportDial made, seen := seen }

/-- What the options of a listen come to. -/
def previewListen (filter : FilterChoice) (options : List (ListenOption (Hook Run))) :
    Run (Preview ListenReport) := do
  let applied ← (growing ListenPlan.apply {} options).mapM reportListen
  let (made, seen) := planListen filter options
  return { applied := applied, made := ← reportMade reportListen made, seen := seen }

end Switchboard.Scripted
