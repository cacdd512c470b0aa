import Mathlib.Data.List.Sort
import Switchboard.Proofs.Call.Folding
import Switchboard.Proofs.Directory.Registration

set_option autoImplicit false

/-!
# Places of a directory

A registration goes to one place of a directory, a name in a domain, and finds out what was known
there.  `Fills` says what a run of registrations does, place by place: each is answered with what
its place held just before it, puts its own thing there, and leaves every other place alone.  Main
statement: runs are what `Fills` says, a place holds what was last registered there, registrations
to different places can change their order, and a directory is described by the names in its places
(`run_fills_places`).

A map of names is known by what is found in it (`NameMap.ext_find?`), which is why two runs that
fill the places alike end in the same directory and not only in one that answers alike.
-/

namespace Switchboard

/-! ## Maps from names -/

/-- What is in ascending order of names is known by its members. -/
theorem eq_of_ascending {β : Type} (name : β → Text) {l l' : List β}
    (h : l.Pairwise fun a b => Text.precedes (name a) (name b) = true)
    (h' : l'.Pairwise fun a b => Text.precedes (name a) (name b) = true)
    (hmem : ∀ a, a ∈ l ↔ a ∈ l') : l = l' := by
  let before : β → β → Prop := fun a b => Text.precedes (name a) (name b) = true
  have hirrefl : Std.Irrefl before := ⟨fun a ha => by simp [before, Text.precedes_irrefl] at ha⟩
  have hantisymm : Std.Antisymm before :=
    ⟨fun a b hab hba => absurd (Text.precedes_trans hab hba) (hirrefl.irrefl a)⟩
  exact List.Pairwise.eq_of_mem_iff h h' hmem

namespace NameMap

variable {α : Type}

/-- In ascending order each name has one entry. -/
theorem mem_iff_findIn {entries : List (Text × α)}
    (sorted : entries.Pairwise fun e f => Text.precedes e.1 f.1 = true) (name : Text) (value : α) :
    (name, value) ∈ entries ↔ findIn name entries = some value := by
  induction entries with
  | nil => simp [findIn]
  | cons e rest ih =>
    obtain ⟨key, old⟩ := e
    obtain ⟨hfirst, hrest⟩ := List.pairwise_cons.1 sorted
    rw [List.mem_cons, ih hrest, Prod.mk.injEq, findIn]
    by_cases hkey : key = name
    · subst hkey
      have habsent : findIn key rest ≠ some value := by
        intro hfound
        have hself := hfirst _ ((ih hrest).2 hfound)
        simp [Text.precedes_irrefl] at hself
      simp [habsent, eq_comm]
    · simp [hkey, Ne.symm hkey]

/-- A map is known by what is found in it. -/
theorem ext_find? {m n : NameMap α} (h : ∀ name, m.find? name = n.find? name) : m = n := by
  obtain ⟨entries, sorted⟩ := m
  obtain ⟨others, sorted'⟩ := n
  have hmem : ∀ e, e ∈ entries ↔ e ∈ others := by
    rintro ⟨name, value⟩
    rw [mem_iff_findIn sorted, mem_iff_findIn sorted']
    exact Eq.congr_left (h name)
  obtain rfl : entries = others := eq_of_ascending Prod.fst sorted sorted' hmem
  rfl

theorem mem_names_iff {m : NameMap α} {name : Text} : name ∈ m.names ↔ m.find? name ≠ none := by
  rw [names, List.mem_map, Option.ne_none_iff_exists']
  constructor
  · rintro ⟨⟨_, value⟩, hmem, rfl⟩
    exact ⟨value, (mem_iff_findIn m.sorted _ value).1 hmem⟩
  · rintro ⟨value, hfound⟩
    exact ⟨(name, value), (mem_iff_findIn m.sorted name value).2 hfound, rfl⟩

theorem names_ascend (m : NameMap α) :
    m.names.Pairwise fun a b => Text.precedes a b = true := List.pairwise_map.2 m.sorted

end NameMap

/-! ## Names in quotation marks -/

namespace Quoted

/-- What a character looks like between quotation marks. -/
inductive Shows : Char → Text → Prop where
  | marked (c : Char) (h : c = '\x22' ∨ c = '\\') : Shows c ['\\', c]
  | nul : Shows '\x00' ['\\', '0']
  | tab : Shows '\t' ['\\', 't']
  | lineFeed : Shows '\n' ['\\', 'n']
  | carriageReturn : Shows '\r' ['\\', 'r']
  /-- its number in hexadecimal digits -/
  | unshown (c : Char) (other : c ∉ ['\x00', '\t', '\n', '\r']) (h : Text.isUnshown c = true) :
      Shows c ("\\u\x7b".toList ++ Nat.toDigits 16 c.toNat ++ "\x7d".toList)
  | plain (c : Char) (other : c ∉ ['\x22', '\\', '\x00', '\t', '\n', '\r'])
      (h : Text.isUnshown c = false) : Shows c [c]

/-- What a name looks like between quotation marks. -/
inductive Spells : Text → Text → Prop where
  | nil : Spells [] []
  | cons {c : Char} {shown rest text : Text} (first : Shows c shown) (later : Spells rest text) :
      Spells (c :: rest) (shown ++ text)

/-- What a list of names looks like: each of them in quotation marks, and commas between them. -/
inductive Lines : List Text → Text → Prop where
  | none : Lines [] []
  | last {name shown : Text} (spells : Spells name shown) :
      Lines [name] ('\x22' :: shown ++ ['\x22'])
  | more {name shown next text : Text} {rest : List Text} (spells : Spells name shown)
      (later : Lines (next :: rest) text) :
      Lines (name :: next :: rest) ('\x22' :: shown ++ ['\x22'] ++ ", ".toList ++ text)

theorem shows_iff {c : Char} {shown : Text} : Shows c shown ↔ escape '\x22' c = shown := by
  constructor
  · intro h
    cases h with
    | marked c h => exact if_pos h
    | nul | tab | lineFeed | carriageReturn => rfl
    | unshown c other h =>
      simp only [List.mem_cons, List.not_mem_nil, or_false, not_or] at other
      have shape : c ≠ '\x22' ∧ c ≠ '\\' := by
        constructor <;> rintro rfl <;> exact absurd h (by decide)
      simp [escape, shape, other, h]
    | plain c other h =>
      simp only [List.mem_cons, List.not_mem_nil, or_false, not_or] at other
      simp [escape, other, h]
  · rintro rfl
    by_cases marked : c = '\x22' ∨ c = '\\'
    · rw [escape, if_pos marked]
      exact .marked c marked
    by_cases lettered : c ∈ ['\x00', '\t', '\n', '\r']
    · simp only [List.mem_cons, List.not_mem_nil, or_false] at lettered
      rcases lettered with rfl | rfl | rfl | rfl
      · exact .nul
      · exact .tab
      · exact .lineFeed
      · exact .carriageReturn
    have hother := lettered
    simp only [List.mem_cons, List.not_mem_nil, or_false, not_or] at marked lettered
    cases hshown : Text.isUnshown c with
    | true =>
      have hescape : escape '\x22' c
          = "\\u\x7b".toList ++ Nat.toDigits 16 c.toNat ++ "\x7d".toList := by
        simp [escape, marked, lettered, hshown]
      exact hescape ▸ .unshown c hother hshown
    | false =>
      have hescape : escape '\x22' c = [c] := by simp [escape, marked, lettered, hshown]
      exact hescape ▸ .plain c (by simp [marked, lettered]) hshown

theorem spells_iff {name shown : Text} :
    Spells name shown ↔ name.flatMap (escape '\x22') = shown := by
  constructor
  · intro h
    induction h with
    | nil => rfl
    | cons first later ih => rw [List.flatMap_cons, shows_iff.1 first, ih]
  · rintro rfl
    induction name with
    | nil => exact .nil
    | cons c rest ih => exact .cons (shows_iff.2 rfl) ih

theorem commas_more (name next : Text) (rest : List Text) :
    Directory.commas ((name :: next :: rest).map Quoted.text)
      = '\x22' :: name.flatMap (escape '\x22') ++ ['\x22'] ++ ", ".toList
        ++ Directory.commas ((next :: rest).map Quoted.text) := by
  simp [Directory.commas, Quoted.text, between]

theorem lines_iff {names : List Text} {text : Text} :
    Lines names text ↔ Directory.commas (names.map Quoted.text) = text := by
  constructor
  · intro h
    induction h with
    | none => rfl
    | last spells =>
      rw [← spells_iff.1 spells]
      rfl
    | more spells later ih => rw [commas_more, ih, spells_iff.1 spells]
  · rintro rfl
    induction names with
    | nil => exact .none
    | cons name rest ih =>
      cases rest with
      | nil => exact .last (spells_iff.2 rfl)
      | cons next rest =>
        rw [commas_more]
        exact .more (spells_iff.2 rfl) ih

end Quoted

variable {m : Type → Type}

/-! ## Places -/

namespace Directory

/-- The three domains of names. -/
inductive Domain where
  | transport
  | security
  | discovery
  deriving DecidableEq, Repr

/-- A name in a domain. -/
structure Place where
  domain : Domain
  name : Text
  deriving DecidableEq, Repr

/-- What can be known in a place. -/
inductive Known (m : Type → Type) where
  | mechanism (mechanism : Mechanism m)
  | finder (finder : Discovery m)

/-- What a directory knows in a place. -/
def known? (d : Directory m) : Place → Option (Known m)
  | ⟨.transport, name⟩ => (d.transport? name).map .mechanism
  | ⟨.security, name⟩ => (d.security? name).map .mechanism
  | ⟨.discovery, name⟩ => (d.discovery? name).map .finder

end Directory

namespace Registration

open Directory

/-- The place that a registration goes to. -/
def place : Registration m → Place
  | .transport name _ => ⟨.transport, name⟩
  | .security name _ => ⟨.security, name⟩
  | .discovery name _ => ⟨.discovery, name⟩

/-- What a registration puts there. -/
def thing : Registration m → Known m
  | .transport _ mechanism => .mechanism mechanism
  | .security _ mechanism => .mechanism mechanism
  | .discovery _ finder => .finder finder

/-- What a registration puts into a place. -/
def puts? (place : Place) (r : Registration m) : Option (Known m) :=
  if r.place = place then some r.thing else none

end Registration

namespace Directory

open Registration

/-- Carries out a registration, and gives back what its place held. -/
def enter (d : Directory m) : Registration m → Directory m × Option (Known m)
  | .transport name mechanism =>
    ((d.enterTransport name mechanism).1, (d.enterTransport name mechanism).2.map .mechanism)
  | .security name mechanism =>
    ((d.enterSecurity name mechanism).1, (d.enterSecurity name mechanism).2.map .mechanism)
  | .discovery name finder =>
    ((d.enterDiscovery name finder).1, (d.enterDiscovery name finder).2.map .finder)

/-- Carries out registrations one after another: the directory at the end, and the answers. -/
def run (d : Directory m) : List (Registration m) → Directory m × List (Option (Known m))
  | [] => (d, [])
  | r :: rest =>
    let after := (d.enter r).1.run rest
    (after.1, (d.enter r).2 :: after.2)

/-- What a run of registrations does to a directory, and how it is answered. -/
inductive Fills : Directory m → List (Registration m) → Directory m → List (Option (Known m)) → Prop
  | nil (d : Directory m) : Fills d [] d []
  | cons {d next last : Directory m} {r : Registration m} {rest : List (Registration m)}
      {answers : List (Option (Known m))} (own : next.known? r.place = some r.thing)
      (others : ∀ place, place ≠ r.place → next.known? place = d.known? place)
      (filled : Fills next rest last answers) :
      Fills d (r :: rest) last (d.known? r.place :: answers)

/-- The names that some registrations go to in a domain, each once, in ascending order. -/
structure Lists (rs : List (Registration m)) (domain : Domain) (names : List Text) : Prop where
  distinct : names.Nodup
  ascending : names.Pairwise fun a b => Text.precedes a b = true
  registered : ∀ name, name ∈ names ↔ ∃ r ∈ rs, r.place = ⟨domain, name⟩

/-- The description of a directory that knows these names in its domains. -/
inductive Describes (transports securities discoveries : List Text) : Text → Prop where
  | lines {first second third : Text} (transport : Quoted.Lines transports first)
      (security : Quoted.Lines securities second) (discovery : Quoted.Lines discoveries third) :
      Describes transports securities discoveries
        ("Registry \x7b transports: ".toList ++ ('[' :: first ++ [']'])
          ++ ", securities: ".toList ++ ('[' :: second ++ [']'])
          ++ ", discoveries: ".toList ++ ('[' :: third ++ [']']) ++ " \x7d".toList)

/-! ## One registration -/

/-- A directory is known by what it knows in each place. -/
theorem ext_known? {d e : Directory m} (h : ∀ place, d.known? place = e.known? place) : d = e := by
  have hmechanism : Function.Injective (Known.mechanism (m := m)) :=
    fun _ _ h => Known.mechanism.inj h
  have hfinder : Function.Injective (Known.finder (m := m)) := fun _ _ h => Known.finder.inj h
  have htransports : d.transports = e.transports :=
    NameMap.ext_find? fun name => Option.map_injective hmechanism (h ⟨.transport, name⟩)
  have hsecurities : d.securities = e.securities :=
    NameMap.ext_find? fun name => Option.map_injective hmechanism (h ⟨.security, name⟩)
  have hdiscoveries : d.discoveries = e.discoveries :=
    NameMap.ext_find? fun name => Option.map_injective hfinder (h ⟨.discovery, name⟩)
  obtain ⟨transports, securities, discoveries⟩ := d
  obtain rfl : transports = e.transports := htransports
  obtain rfl : securities = e.securities := hsecurities
  obtain rfl : discoveries = e.discoveries := hdiscoveries
  rfl

theorem enter_fst (d : Directory m) (r : Registration m) : (d.enter r).1 = d.register r := by
  cases r <;> rfl

theorem enter_snd (d : Directory m) (r : Registration m) : (d.enter r).2 = d.known? r.place := by
  cases r <;> rfl

theorem known?_register (d : Directory m) (r : Registration m) (place : Place) :
    (d.register r).known? place = (r.puts? place).or (d.known? place) := by
  obtain ⟨domain, name⟩ := place
  cases domain with
  | transport =>
    rw [known?, known?, transport?_register, Option.map_or]
    cases r <;> simp [asTransport?, puts?, Registration.place, thing]
  | security =>
    rw [known?, known?, security?_register, Option.map_or]
    cases r <;> simp [asSecurity?, puts?, Registration.place, thing]
  | discovery =>
    rw [known?, known?, discovery?_register, Option.map_or]
    cases r <;> simp [asDiscovery?, puts?, Registration.place, thing]

theorem known?_enter (d : Directory m) (r : Registration m) (place : Place) :
    (d.enter r).1.known? place = (r.puts? place).or (d.known? place) := by
  rw [enter_fst, known?_register]

theorem known?_enter_self (d : Directory m) (r : Registration m) :
    (d.enter r).1.known? r.place = some r.thing := by
  rw [known?_enter, puts?, if_pos rfl, Option.some_or]

theorem known?_enter_of_ne (d : Directory m) {r : Registration m} {place : Place}
    (h : place ≠ r.place) : (d.enter r).1.known? place = d.known? place := by
  rw [known?_enter, puts?, if_neg (Ne.symm h), Option.none_or]

/-- The order of two registrations that go to different places does not matter. -/
theorem enter_comm (d : Directory m) {r s : Registration m} (h : r.place ≠ s.place) :
    ((d.enter s).1.enter r).1 = ((d.enter r).1.enter s).1 := by
  refine ext_known? fun place => ?_
  rw [known?_enter, known?_enter, known?_enter, known?_enter]
  have hone : r.puts? place = none ∨ s.puts? place = none := by
    by_cases hr : r.place = place
    · exact .inr (if_neg fun hs => h (hr.trans hs.symm))
    · exact .inl (if_neg hr)
  rcases hone with hr | hs
  · rw [hr, Option.none_or, Option.none_or]
  · rw [hs, Option.none_or, Option.none_or]

/-! ## Runs -/

theorem run_fst (d : Directory m) (rs : List (Registration m)) :
    (d.run rs).1 = rs.foldl register d := by
  induction rs generalizing d with
  | nil => rfl
  | cons r rest ih =>
    rw [List.foldl_cons, ← enter_fst]
    exact ih (d.enter r).1

theorem fills_run (d : Directory m) (rs : List (Registration m)) :
    Fills d rs (d.run rs).1 (d.run rs).2 := by
  induction rs generalizing d with
  | nil => exact .nil d
  | cons r rest ih =>
    have hstep := Fills.cons (known?_enter_self d r) (fun _ h => known?_enter_of_ne d h)
      (ih (d.enter r).1)
    rwa [← enter_snd] at hstep

/-- The rules leave a run no choice. -/
theorem Fills.run_eq {d last : Directory m} {rs : List (Registration m)}
    {answers : List (Option (Known m))} (h : Fills d rs last answers) :
    d.run rs = (last, answers) := by
  induction h with
  | nil d => rfl
  | @cons d next last r rest answers own others filled ih =>
    have hnext : (d.enter r).1 = next := by
      refine ext_known? fun place => ?_
      by_cases hplace : place = r.place
      · rw [hplace, known?_enter_self, own]
      · rw [known?_enter_of_ne d hplace, others place hplace]
    rw [run, hnext, ih, enter_snd]

/-- A place holds what was last registered there. -/
theorem lastSaid_run (rs : List (Registration m)) (place : Place) :
    LastSaid (puts? place) rs ((empty.run rs).1.known? place) := by
  have hrun := find_foldl_register (fun d => d.known? place)
    (fun d r => known?_register d r place) rs empty
  have hempty : (empty : Directory m).known? place = none := by
    obtain ⟨domain, name⟩ := place
    cases domain <;> rfl
  rw [run_fst, lastSaid_iff, hrun, hempty, Option.or_none]
  rfl

theorem run_swap (d : Directory m) {r s : Registration m} (h : r.place ≠ s.place) :
    d.run [s, r] = ((d.run [r, s]).1, (d.run [r, s]).2.reverse) := by
  have hr : ((d.enter s).1.enter r).2 = (d.enter r).2 := by
    rw [enter_snd, enter_snd, known?_enter_of_ne d h]
  have hs : ((d.enter r).1.enter s).2 = (d.enter s).2 := by
    rw [enter_snd, enter_snd, known?_enter_of_ne d (Ne.symm h)]
  simp only [run, enter_comm d h, hr, hs, List.reverse_cons, List.reverse_nil, List.nil_append,
    List.cons_append]

/-! ## The description -/

/-- The names that a directory knows in a domain. -/
def namesIn (d : Directory m) : Domain → List Text
  | .transport => d.transports.names
  | .security => d.securities.names
  | .discovery => d.discoveries.names

theorem mem_namesIn_iff {d : Directory m} {domain : Domain} {name : Text} :
    name ∈ d.namesIn domain ↔ d.known? ⟨domain, name⟩ ≠ none := by
  cases domain <;>
    simp only [namesIn, NameMap.mem_names_iff, known?, ne_eq, Option.map_eq_none_iff, transport?,
      security?, discovery?]

theorem namesIn_ascend (d : Directory m) (domain : Domain) :
    (d.namesIn domain).Pairwise fun a b => Text.precedes a b = true := by
  cases domain <;> exact NameMap.names_ascend _

theorem known?_run_ne_none_iff {rs : List (Registration m)} {place : Place} :
    (empty.run rs).1.known? place ≠ none ↔ ∃ r ∈ rs, r.place = place := by
  have hlast := lastSaid_run rs place
  generalize (empty.run rs).1.known? place = value at hlast ⊢
  cases hlast with
  | unsaid h =>
    have hnone : ¬ ∃ r ∈ rs, r.place = place := by
      rintro ⟨r, hr, hplace⟩
      have hputs := h r hr
      rw [puts?, if_pos hplace] at hputs
      exact nomatch hputs
    simpa using hnone
  | said before after r value split h last =>
    have hplace : r.place = place := by
      by_contra hne
      rw [puts?, if_neg hne] at h
      exact nomatch h
    exact iff_of_true (Option.some_ne_none value) ⟨r, by simp [split], hplace⟩

theorem lists_namesIn_run (rs : List (Registration m)) (domain : Domain) :
    Lists rs domain ((empty.run rs).1.namesIn domain) := by
  have hascending := namesIn_ascend (empty.run rs).1 domain
  refine ⟨hascending.imp ?_, hascending, ?_⟩
  · rintro a _ hself rfl
    simp [Text.precedes_irrefl] at hself
  · intro name
    rw [mem_namesIn_iff, known?_run_ne_none_iff]

theorem Lists.unique {rs : List (Registration m)} {domain : Domain} {names others : List Text}
    (h : Lists rs domain names) (h' : Lists rs domain others) : names = others :=
  eq_of_ascending id h.ascending h'.ascending fun name =>
    (h.registered name).trans (h'.registered name).symm

theorem describe_run_iff {rs : List (Registration m)} {text : Text} :
    (empty.run rs).1.describe = text ↔
      ∃ transports securities discoveries, Lists rs .transport transports ∧
        Lists rs .security securities ∧ Lists rs .discovery discoveries ∧
        Describes transports securities discoveries text := by
  have htransports := lists_namesIn_run rs .transport
  have hsecurities := lists_namesIn_run rs .security
  have hdiscoveries := lists_namesIn_run rs .discovery
  constructor
  · rintro rfl
    refine ⟨_, _, _, htransports, hsecurities, hdiscoveries, ?_⟩
    exact .lines (Quoted.lines_iff.2 rfl) (Quoted.lines_iff.2 rfl) (Quoted.lines_iff.2 rfl)
  · rintro ⟨_, _, _, ht, hs, hd, describes⟩
    obtain rfl := ht.unique htransports
    obtain rfl := hs.unique hsecurities
    obtain rfl := hd.unique hdiscoveries
    cases describes with
    | lines transport security discovery =>
      rw [← Quoted.lines_iff.1 transport, ← Quoted.lines_iff.1 security,
        ← Quoted.lines_iff.1 discovery]
      rfl

/-! ## Main statement -/

/-- A run of registrations fills the places one after another, and a place holds what was last
registered there.  Registrations to different places can change their order.  The description tells
the names in the places of each domain, in ascending order and each between quotation marks, and no
more. -/
theorem run_fills_places (rs : List (Registration m)) :
    (∀ last answers, empty.run rs = (last, answers) ↔ Fills empty rs last answers) ∧
    (∀ place, LastSaid (puts? place) rs ((empty.run rs).1.known? place)) ∧
    (∀ (d : Directory m) (r s : Registration m), r.place ≠ s.place →
      d.run [s, r] = ((d.run [r, s]).1, (d.run [r, s]).2.reverse)) ∧
    (∀ text, (empty.run rs).1.describe = text ↔
      ∃ transports securities discoveries, Lists rs .transport transports ∧
        Lists rs .security securities ∧ Lists rs .discovery discoveries ∧
        Describes transports securities discoveries text) := by
  refine ⟨fun last answers => ⟨?_, Fills.run_eq⟩, lastSaid_run rs, ?_, fun _ => describe_run_iff⟩
  · intro h
    have hfills := fills_run empty rs
    rwa [h] at hfills
  · intro d r s h
    exact run_swap d h

/-- A mechanism that refuses everything. -/
def refusing (label : String) : Mechanism Id where
  label := label
  dial _ _ := .error (.mechanism label "refused")
  listen _ _ := .error (.mechanism label "refused")

/-- One name in two domains, of which one knows it already: in either order the registrations are
answered alike. -/
theorem run_fills_places_of_shared_name :
    let d : Directory Id := (empty.run [.transport "tls".toList (refusing "old")]).1
    let r : Registration Id := .transport "tls".toList (refusing "new")
    let s : Registration Id := .security "tls".toList (refusing "other")
    r.place ≠ s.place ∧ d.run [s, r] = ((d.run [r, s]).1, (d.run [r, s]).2.reverse) ∧
      (d.run [r, s]).2 = [some (.mechanism (refusing "old")), none] := by
  intro d r s
  have hplaces : r.place ≠ s.place := by decide
  obtain ⟨-, -, hswap, -⟩ := run_fills_places [r, s]
  exact ⟨hplaces, hswap d r s hplaces, rfl⟩

example :
    (empty.run [.security ['b'] (refusing "old"), .security ['a'] (refusing "new")]).1.describe =
      "Registry \x7b transports: [], securities: [\"a\", \"b\"], discoveries: [] \x7d".toList := by
  decide

end Directory

end Switchboard
