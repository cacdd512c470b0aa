import Switchboard.Directory

set_option autoImplicit false

/-!
# Directories that registrations lead to

A directory is filled by registrations in any order.  What is found in it afterwards can be told
from the registrations alone: under a name in a domain, the last mechanism that was registered
there (`transport?_ofRegistrations` and its companions for the other domains).
-/

namespace Switchboard

variable {m : Type → Type}

/-- One act of filling a directory. -/
inductive Registration (m : Type → Type) where
  | transport (name : Text) (mechanism : Mechanism m)
  | security (name : Text) (mechanism : Mechanism m)
  | discovery (name : Text) (finder : Discovery m)

namespace Registration

/-- What a registration enters as the transport of a name. -/
def asTransport? (name : Text) : Registration m → Option (Mechanism m)
  | .transport key mechanism => if key = name then some mechanism else none
  | _ => none

/-- What a registration enters as the security layer of a name. -/
def asSecurity? (name : Text) : Registration m → Option (Mechanism m)
  | .security key mechanism => if key = name then some mechanism else none
  | _ => none

/-- What a registration enters as the discovery mechanism of a name. -/
def asDiscovery? (name : Text) : Registration m → Option (Discovery m)
  | .discovery key finder => if key = name then some finder else none
  | _ => none

/-- The last thing of a kind that some registrations enter. -/
def last? {α : Type} (entered? : Registration m → Option α) (rs : List (Registration m)) :
    Option α :=
  rs.reverse.findSome? entered?

variable {α : Type}

@[simp] theorem last?_nil (entered? : Registration m → Option α) : last? entered? [] = none := rfl

/-- A later registration comes before an earlier one. -/
theorem last?_cons (entered? : Registration m → Option α) (r : Registration m)
    (rs : List (Registration m)) :
    last? entered? (r :: rs) = (last? entered? rs).or (entered? r) := by
  unfold last?
  rw [List.reverse_cons, List.findSome?_append]
  cases hr : entered? r with
  | none => simp [hr]
  | some a => simp [hr]

/-- A registration that enters nothing of a kind may be left out. -/
theorem last?_filter {entered? : Registration m → Option α} {keep : Registration m → Bool}
    (h : ∀ r, keep r = false → entered? r = none) (rs : List (Registration m)) :
    last? entered? (rs.filter keep) = last? entered? rs := by
  induction rs with
  | nil => rfl
  | cons r rs ih =>
    cases hr : keep r with
    | false =>
      rw [List.filter_cons_of_neg (by simp [hr]), last?_cons, h r hr, Option.or_none, ih]
    | true => rw [List.filter_cons_of_pos hr, last?_cons, last?_cons, ih]

end Registration

namespace Directory

open Registration

/-- The directory after one registration. -/
def register (d : Directory m) : Registration m → Directory m
  | .transport name mechanism => (d.enterTransport name mechanism).1
  | .security name mechanism => (d.enterSecurity name mechanism).1
  | .discovery name finder => (d.enterDiscovery name finder).1

/-- The directory that a sequence of registrations leads to. -/
def ofRegistrations (rs : List (Registration m)) : Directory m := rs.foldl register empty

/-! ## One registration -/

theorem transport?_register (d : Directory m) (r : Registration m) (name : Text) :
    (d.register r).transport? name = (r.asTransport? name).or (d.transport? name) := by
  cases r with
  | transport key mechanism =>
    have hfind := NameMap.find?_insert d.transports key name mechanism
    by_cases h : key = name
    · simpa [register, enterTransport, transport?, asTransport?, h] using hfind
    · simpa [register, enterTransport, transport?, asTransport?, h] using hfind
  | security key mechanism => rfl
  | discovery key finder => rfl

theorem security?_register (d : Directory m) (r : Registration m) (name : Text) :
    (d.register r).security? name = (r.asSecurity? name).or (d.security? name) := by
  cases r with
  | transport key mechanism => rfl
  | security key mechanism =>
    have hfind := NameMap.find?_insert d.securities key name mechanism
    by_cases h : key = name
    · simpa [register, enterSecurity, security?, asSecurity?, h] using hfind
    · simpa [register, enterSecurity, security?, asSecurity?, h] using hfind
  | discovery key finder => rfl

theorem discovery?_register (d : Directory m) (r : Registration m) (name : Text) :
    (d.register r).discovery? name = (r.asDiscovery? name).or (d.discovery? name) := by
  cases r with
  | transport key mechanism => rfl
  | security key mechanism => rfl
  | discovery key finder =>
    have hfind := NameMap.find?_insert d.discoveries key name finder
    by_cases h : key = name
    · simpa [register, enterDiscovery, discovery?, asDiscovery?, h] using hfind
    · simpa [register, enterDiscovery, discovery?, asDiscovery?, h] using hfind

/-! ## Any number of registrations -/

/-- A look-up that each registration changes by what it enters is changed by a run of them by what
the last of them enters. -/
theorem find_foldl_register {α : Type} (find : Directory m → Option α)
    {entered? : Registration m → Option α}
    (step : ∀ d r, find (d.register r) = (entered? r).or (find d)) (rs : List (Registration m))
    (d : Directory m) : find (rs.foldl register d) = (last? entered? rs).or (find d) := by
  induction rs generalizing d with
  | nil => rfl
  | cons r rs ih => rw [List.foldl_cons, ih, step, last?_cons, Option.or_assoc]

theorem transport?_ofRegistrations (rs : List (Registration m)) (name : Text) :
    (ofRegistrations rs).transport? name = last? (asTransport? name) rs := by
  have hrun := find_foldl_register (fun d => d.transport? name)
    (fun d r => transport?_register d r name) rs empty
  exact hrun.trans Option.or_none

theorem security?_ofRegistrations (rs : List (Registration m)) (name : Text) :
    (ofRegistrations rs).security? name = last? (asSecurity? name) rs := by
  have hrun := find_foldl_register (fun d => d.security? name)
    (fun d r => security?_register d r name) rs empty
  exact hrun.trans Option.or_none

theorem discovery?_ofRegistrations (rs : List (Registration m)) (name : Text) :
    (ofRegistrations rs).discovery? name = last? (asDiscovery? name) rs := by
  have hrun := find_foldl_register (fun d => d.discovery? name)
    (fun d r => discovery?_register d r name) rs empty
  exact hrun.trans Option.or_none

end Directory

end Switchboard
