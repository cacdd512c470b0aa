import Switchboard.Proofs.Tcp.ReceptionSteps

set_option autoImplicit false

/-!
# What stays true of a listener, whatever is done with it

Three things: every connection that comes in keeps to one place, the native listener has as many
holders as there are shares of it, and those who wait have word of every announcement.  Main
statement: they hold of every run (`sound_run`).
-/

namespace Switchboard.Tcp

/-! ## Lists of those who are under way -/

section

variable {α : Type} {l : List α} {P : α → Prop}

theorem forall_mem_concat (h : ∀ a ∈ l, P a) {b : α} (hb : P b) : ∀ a ∈ l ++ [b], P a :=
  List.forall_mem_append.2 ⟨h, List.forall_mem_singleton.2 hb⟩

theorem forall_mem_set (h : ∀ a ∈ l, P a) (i : Nat) {b : α} (hb : P b) : ∀ a ∈ l.set i b, P a := by
  intro a hmem
  rcases List.mem_or_eq_of_mem_set hmem with hold | rfl
  · exact h a hold
  · exact hb

/-- How often a test succeeds when one member is replaced. -/
theorem countP_set_add (p : α → Bool) {i : Nat} {before : α} (there : l[i]? = some before)
    (after : α) : (l.set i after).countP p + (p before).toNat = l.countP p + (p after).toNat := by
  induction l generalizing i with
  | nil => cases there
  | cons head tail ih =>
    cases i with
    | zero =>
      cases there
      simp only [List.set_cons_zero, List.countP_cons]
      cases p before <;> cases p after <;> rfl
    | succ i =>
      have htail := ih there
      simp only [List.set_cons_succ, List.countP_cons]
      omega

theorem toNat_le_countP (p : α → Bool) {i : Nat} {a : α} (there : l[i]? = some a) :
    (p a).toNat ≤ l.countP p := by
  cases h : p a with
  | false => exact Nat.zero_le _
  | true => exact List.countP_pos_iff.2 ⟨a, List.mem_of_getElem? there, h⟩

end

/-! ## Letting go of sockets -/

namespace Lobby

variable (d : Lobby) (native socket : Socket)

@[simp] theorem gate_dropShare : d.dropShare.gate = d.gate := by
  unfold dropShare
  split <;> rfl

@[simp] theorem holders_dropShare : d.dropShare.holders = d.holders - 1 := by
  unfold dropShare
  split
  case isTrue => rfl
  case isFalse h => simp only; omega

theorem queue_dropShare_suffix : d.dropShare.queue <:+ d.queue := by
  unfold dropShare
  split
  case isTrue => exact List.suffix_refl _
  case isFalse => exact List.nil_suffix

/-- With the last share goes what is queued. -/
theorem queue_dropShare_of_holders (h : d.dropShare.holders = 0) : d.dropShare.queue = [] := by
  unfold dropShare at h ⊢
  split
  case isTrue hmore =>
    rw [if_pos hmore] at h
    simp only at h
    omega
  case isFalse => rfl

@[simp] theorem gate_letGo : (d.letGo native socket).gate = d.gate := by
  unfold letGo
  split
  case isTrue => exact d.gate_dropShare
  case isFalse => rfl

@[simp] theorem letGo_native : d.letGo native native = d.dropShare := if_pos rfl

theorem letGo_of_ne (h : socket ≠ native) : d.letGo native socket = d := if_neg h

theorem queue_letGo_suffix : (d.letGo native socket).queue <:+ d.queue := by
  unfold letGo
  split
  case isTrue => exact d.queue_dropShare_suffix
  case isFalse => exact List.suffix_refl _

@[simp] theorem gate_letGoShare (share : Option Socket) :
    (d.letGoShare native share).gate = d.gate := by
  cases share with
  | none => rfl
  | some socket => exact d.gate_letGo native socket

theorem queue_letGoShare_suffix (share : Option Socket) :
    (d.letGoShare native share).queue <:+ d.queue := by
  cases share with
  | none => exact List.suffix_refl _
  | some socket => exact d.queue_letGo_suffix native socket

end Lobby

/-! ## Every connection keeps to one place -/

theorem Post.Finds.queue_suffix {post : Post} {d d' : Lobby} {native : Socket} {heard : Bool}
    {found : Progress (Except Fault Arrival)} (h : post.Finds d native heard found d') :
    d'.queue <:+ d.queue := by
  cases h with
  | closed => exact d.queue_letGo_suffix ..
  | nothing => exact List.suffix_refl _
  | failed fault => exact d.queue_letGo_suffix ..
  | received queued =>
    refine (Lobby.queue_letGo_suffix _ ..).trans ?_
    rw [queued]
    exact List.suffix_cons ..
  | spoiled queued fault =>
    refine (Lobby.queue_letGo_suffix _ ..).trans ((Lobby.queue_letGo_suffix _ ..).trans ?_)
    rw [queued]
    exact List.suffix_cons ..

theorem Post.Finds.gate {post : Post} {d d' : Lobby} {native : Socket} {heard : Bool}
    {found : Progress (Except Fault Arrival)} (h : post.Finds d native heard found d') :
    d'.gate = d.gate := by
  cases h <;> simp

/-- What a look finds was the first in the queue, and is there no more. -/
theorem Post.Finds.first {post : Post} {d d' : Lobby} {native : Socket} {heard : Bool}
    {arrival : Arrival} (h : post.Finds d native heard (.done (.ok arrival)) d') :
    ∃ rest, d.queue = arrival :: rest ∧ d'.queue <:+ rest := by
  cases h with
  | received queued => exact ⟨_, queued, Lobby.queue_letGo_suffix _ ..⟩

namespace Visit

/-- The connection that an accept has returned. -/
def returned? : Visit → Option Arrival
  | .ended (.ok arrival) => some arrival
  | _ => none

@[simp] theorem returned?_told (visit : Visit) : visit.told.returned? = visit.returned? := by
  cases visit <;> rfl

@[simp] theorem share?_told (visit : Visit) : visit.told.share? = visit.share? := by
  cases visit <;> rfl

@[simp] theorem told_told (visit : Visit) : visit.told.told = visit.told := by
  cases visit <;> rfl

variable {post : Post} {d d' : Lobby} {before after : Visit}

theorem Step.gate (h : Step post d before after d') : d'.gate = d.gate := by
  cases h with
  | found finds => exact finds.gate
  | _ => rfl

theorem Step.queue_suffix (h : Step post d before after d') : d'.queue <:+ d.queue := by
  cases h with
  | found finds => exact finds.queue_suffix
  | _ => exact List.suffix_refl _

/-- What an accept returns was the first in the queue, and is there no more. -/
theorem Step.returned (h : Step post d before after d') {arrival : Arrival}
    (hafter : after.returned? = some arrival) :
    before.returned? = some arrival ∨
      ∃ rest, d.queue = arrival :: rest ∧ d'.queue <:+ rest := by
  cases h with
  | @found _ _ result _ finds =>
    cases result with
    | error fault => cases hafter
    | ok found =>
      cases hafter
      exact .inr finds.first
  | finished => exact .inl hafter
  | _ => cases hafter

end Visit

theorem Leave.Step.queue_suffix {post : Post} {d d' : Lobby} {before after : Leave}
    (h : Step post d before after d') : d'.queue <:+ d.queue := by
  cases h with
  | departed native => exact d.queue_letGoShare_suffix ..
  | _ => exact List.suffix_refl _

namespace Reception

/-- The connection that an accept has returned, if there is an accept with this index. -/
def returned? (r : Reception) (index : Nat) : Option Arrival :=
  r.visits[index]?.bind Visit.returned?

/-- Connections come in one by one, and each is in the queue once or with one accept at most. -/
structure Delivers (r : Reception) : Prop where
  numbered : ∀ k arrival, r.arrivals[k]? = some arrival →
    arrival.socket.number = r.post.socket.number + 1 + k
  queued : ∀ arrival ∈ r.lobby.queue, arrival ∈ r.arrivals
  once : r.lobby.queue.Nodup
  returned : ∀ i arrival, r.returned? i = some arrival →
    arrival ∈ r.arrivals ∧ arrival ∉ r.lobby.queue
  apart : ∀ i j arrival, r.returned? i = some arrival → r.returned? j = some arrival → i = j

variable {r r' : Reception}

theorem Delivers.number_lt (h : r.Delivers) {arrival : Arrival} (hmem : arrival ∈ r.arrivals) :
    r.post.socket.number < arrival.socket.number ∧
      arrival.socket.number < r.post.socket.number + 1 + r.arrivals.length := by
  obtain ⟨k, hk⟩ := List.mem_iff_getElem?.1 hmem
  have hlt : k < r.arrivals.length := (List.getElem?_eq_some_iff.1 hk).1
  have hnumber := h.numbered k arrival hk
  omega

/-- A connection that comes in is another one than all before. -/
theorem Delivers.nextArrival_not_mem (h : r.Delivers) (peer : SocketAddr) :
    r.nextArrival peer ∉ r.arrivals := by
  intro hmem
  have hlt := (h.number_lt hmem).2
  simp [nextArrival] at hlt

/-- Connections with the same socket are the same. -/
theorem Delivers.eq_of_socket (h : r.Delivers) {a b : Arrival} (ha : a ∈ r.arrivals)
    (hb : b ∈ r.arrivals) (hsocket : a.socket = b.socket) : a = b := by
  obtain ⟨k, hk⟩ := List.mem_iff_getElem?.1 ha
  obtain ⟨l, hl⟩ := List.mem_iff_getElem?.1 hb
  have hkl : k = l := by
    have hak := h.numbered k a hk
    have hbl := h.numbered l b hl
    rw [hsocket] at hak
    omega
  subst hkl
  exact Option.some.inj (hk.symm.trans hl)

/-- Whoever takes nothing but what is queued away disturbs no delivery. -/
theorem Delivers.mono (h : r.Delivers) (hpost : r'.post = r.post)
    (harrivals : r'.arrivals = r.arrivals) (hqueue : r'.lobby.queue <:+ r.lobby.queue)
    (hreturned : ∀ i arrival, r'.returned? i = some arrival → r.returned? i = some arrival) :
    r'.Delivers where
  numbered := by
    rw [hpost, harrivals]
    exact h.numbered
  queued := by
    intro arrival hmem
    rw [harrivals]
    exact h.queued arrival (hqueue.subset hmem)
  once := h.once.sublist hqueue.sublist
  returned := by
    intro i arrival hi
    obtain ⟨hmem, hgone⟩ := h.returned i arrival (hreturned i arrival hi)
    rw [harrivals]
    exact ⟨hmem, fun hqueued => hgone (hqueue.subset hqueued)⟩
  apart := fun i j arrival hi hj =>
    h.apart i j arrival (hreturned i arrival hi) (hreturned j arrival hj)

theorem returned?_set {index : Nat} {before : Visit} (there : r.visits[index]? = some before)
    (after : Visit) (lobby : Lobby) (i : Nat) :
    returned? { r with visits := r.visits.set index after, lobby := lobby } i
      = if index = i then after.returned? else r.returned? i := by
  have hlt : index < r.visits.length := (List.getElem?_eq_some_iff.1 there).1
  by_cases hi : index = i
  · subst hi
    simp [returned?, hlt]
  · simp [returned?, hi]

theorem delivers_start (post : Post) : (start post).Delivers where
  numbered := by simp [start]
  queued := by simp [start]
  once := List.nodup_nil
  returned := by simp [start, returned?]
  apart := by simp [start, returned?]

theorem Delivers.arrived (h : r.Delivers) (peer : SocketAddr) :
    Delivers
      { r with
        arrivals := r.arrivals ++ [r.nextArrival peer]
        lobby := { r.lobby with queue := r.lobby.queue ++ [r.nextArrival peer] } } where
  numbered := by
    intro k arrival hk
    rw [List.getElem?_append] at hk
    split at hk
    case isTrue => exact h.numbered k arrival hk
    case isFalse hge =>
      rw [List.getElem?_singleton] at hk
      split at hk
      case isTrue hlast =>
        cases hk
        simp only [nextArrival]
        omega
      case isFalse => cases hk
  queued := by
    intro arrival hmem
    rw [List.mem_append] at hmem ⊢
    exact hmem.imp_left (h.queued arrival)
  once := by
    rw [List.nodup_append]
    refine ⟨h.once, by simp, ?_⟩
    rintro a ha b hb rfl
    rw [List.mem_singleton.1 hb] at ha
    exact h.nextArrival_not_mem peer (h.queued _ ha)
  returned := by
    intro i arrival hi
    obtain ⟨hmem, hgone⟩ := h.returned i arrival hi
    have hne : arrival ≠ r.nextArrival peer := by
      rintro rfl
      exact h.nextArrival_not_mem peer hmem
    simp [hmem, hgone, hne]
  apart := h.apart

/-- A step of an accept moves a connection from the head of the queue to this accept, if it moves
one at all. -/
theorem Delivers.visited (h : r.Delivers) {index : Nat} {before after : Visit} {lobby : Lobby}
    (there : r.visits[index]? = some before) (step : before.Step r.post r.lobby after lobby) :
    Delivers { r with visits := r.visits.set index after, lobby := lobby } := by
  have hset := returned?_set there after lobby
  have hbefore : r.returned? index = before.returned? := by simp [returned?, there]
  cases hafter : after.returned? with
  | none =>
    refine h.mono rfl rfl step.queue_suffix ?_
    intro i arrival hi
    rw [hset] at hi
    split at hi
    case isTrue => simp [hafter] at hi
    case isFalse => exact hi
  | some arrival =>
    rcases step.returned hafter with hsame | ⟨rest, hqueue, hrest⟩
    · refine h.mono rfl rfl step.queue_suffix ?_
      intro i other hi
      rw [hset] at hi
      split at hi
      case isTrue heq =>
        subst heq
        rw [hbefore, hsame]
        exact hafter.symm.trans hi
      case isFalse => exact hi
    · have hqueued : arrival ∈ r.lobby.queue := by simp [hqueue]
      have hsuffix : lobby.queue <:+ r.lobby.queue := hrest.trans (hqueue ▸ List.suffix_cons ..)
      have hgone : arrival ∉ lobby.queue := fun hmem =>
        (List.nodup_cons.1 (hqueue ▸ h.once)).1 (hrest.subset hmem)
      have hfresh : ∀ j, r.returned? j ≠ some arrival := fun j hj =>
        (h.returned j arrival hj).2 hqueued
      refine ⟨h.numbered, fun a ha => h.queued a (hsuffix.subset ha),
        h.once.sublist hsuffix.sublist, ?_, ?_⟩
      · intro i a hi
        rw [hset, hafter] at hi
        split at hi
        case isTrue =>
          cases hi
          exact ⟨h.queued arrival hqueued, hgone⟩
        case isFalse =>
          obtain ⟨hmem, hout⟩ := h.returned i a hi
          exact ⟨hmem, fun hin => hout (hsuffix.subset hin)⟩
      · intro i j a hi hj
        rw [hset, hafter] at hi hj
        split at hi <;> split at hj
        case isTrue.isTrue hi' hj' => exact hi'.symm.trans hj'
        case isTrue.isFalse =>
          cases hi
          exact absurd hj (hfresh j)
        case isFalse.isTrue =>
          cases hj
          exact absurd hi (hfresh i)
        case isFalse.isFalse => exact h.apart i j a hi hj

theorem returned?_notice (leave : Leave) (leaves : List Leave) (lobby : Lobby) (i : Nat) :
    returned? { r with visits := leave.notice r.visits, leaves := leaves, lobby := lobby } i
      = r.returned? i := by
  cases leave with
  | taken native =>
    simp only [returned?, Leave.notice, List.getElem?_map]
    cases r.visits[i]? <;> simp
  | _ => rfl

theorem Delivers.change (h : r.Delivers) {event : Event} (change : Change r event r') :
    r'.Delivers := by
  cases change with
  | arrived => exact h.arrived _
  | called =>
    refine h.mono rfl rfl (List.suffix_refl _) ?_
    intro i arrival hi
    simp only [returned?, List.getElem?_append] at hi ⊢
    split at hi
    case isTrue => exact hi
    case isFalse =>
      rw [List.getElem?_singleton] at hi
      split at hi <;> cases hi
  | visited there step => exact h.visited there step
  | leftOff there =>
    refine h.mono rfl rfl (Lobby.queue_letGoShare_suffix _ _ _) ?_
    intro i arrival hi
    rw [returned?_set there] at hi
    split at hi
    case isTrue => cases hi
    case isFalse => exact hi
  | left there step =>
    refine h.mono rfl rfl step.queue_suffix ?_
    intro i arrival hi
    rwa [returned?_notice] at hi
  | closeCalled => exact h.mono rfl rfl (List.suffix_refl _) fun _ _ hi => hi
  | turnedAway | noVisit | nobodyLeft | noLeave => exact h

end Reception

/-! ## As many holders as shares -/

/-- A socket that is held is the native listener. -/
def Post.Owns (post : Post) (share : Option Socket) : Prop :=
  ∀ socket, share = some socket → socket = post.socket

/-- The number of shares that an accept, a close or the gate has. -/
def weight (share : Option Socket) : Nat := share.isSome.toNat

@[simp] theorem weight_none : weight none = 0 := rfl

@[simp] theorem weight_some (socket : Socket) : weight (some socket) = 1 := rfl

namespace Post

variable {post : Post} {d d' : Lobby}

theorem owns_none : post.Owns none := fun _ h => nomatch h

/-- A share that is let go is one holder less; with the last of them goes what is queued. -/
theorem holders_letGoShare {share : Option Socket} (owns : post.Owns share)
    (enough : weight share ≤ d.holders) (emptied : d.holders = 0 → d.queue = []) :
    (d.letGoShare post.socket share).holders + weight share = d.holders ∧
      ((d.letGoShare post.socket share).holders = 0 →
        (d.letGoShare post.socket share).queue = []) := by
  cases share with
  | none => exact ⟨rfl, emptied⟩
  | some socket =>
    have hdrop : d.letGoShare post.socket (some socket) = d.dropShare := by
      simp [Lobby.letGoShare, owns socket rfl]
    rw [weight_some] at enough
    rw [hdrop, Lobby.holders_dropShare, weight_some]
    exact ⟨Nat.sub_add_cancel enough, fun h => d.queue_dropShare_of_holders (by simpa using h)⟩

/-- An accept that has found something holds its share no more. -/
theorem Finds.dropShare {native : Socket} {heard : Bool} {result : Except Fault Arrival}
    (h : post.Finds d native heard (.done result) d') (owns : native = post.socket)
    (others : ∀ arrival ∈ d.queue, arrival.socket ≠ post.socket) :
    ∃ queue, d' = Lobby.dropShare { d with queue := queue } := by
  subst owns
  cases h with
  | closed | failed => exact ⟨d.queue, by simp⟩
  | received queued => exact ⟨_, Lobby.letGo_native _ _⟩
  | spoiled queued =>
    have hother := others _ (queued ▸ List.mem_cons_self)
    exact ⟨_, by rw [Lobby.letGo_of_ne _ _ _ hother, Lobby.letGo_native]⟩

end Post

namespace Visit

variable {post : Post} {d d' : Lobby} {before after : Visit}

/-- The holders change with the share of the accept; with the last of them goes what is queued. -/
theorem Step.holders (h : Step post d before after d') (owns : post.Owns before.share?)
    (others : ∀ arrival ∈ d.queue, arrival.socket ≠ post.socket)
    (enough : weight before.share? ≤ d.holders) (emptied : d.holders = 0 → d.queue = []) :
    d'.holders + weight before.share? = d.holders + weight after.share? ∧
      (d'.holders = 0 → d'.queue = []) := by
  cases h with
  | entered => exact ⟨rfl, by simp⟩
  | found finds =>
    obtain ⟨queue, rfl⟩ := finds.dropShare (owns _ rfl) others
    refine ⟨?_, Lobby.queue_dropShare_of_holders _⟩
    simp [share?] at enough ⊢
    omega
  | refused | subscribed | foundNothing | finished => exact ⟨rfl, emptied⟩

theorem Step.owns (h : Step post d before after d') (owns : post.Owns before.share?)
    (gate : post.Owns d.gate.native) : post.Owns after.share? := by
  cases h with
  | entered there => exact fun socket h => gate socket (there.trans h)
  | subscribed | foundNothing | finished => exact owns
  | refused | found => exact Post.owns_none

end Visit

namespace Leave

variable {post : Post} {d d' : Lobby} {before after : Leave}

/-- What a close takes of the gate it holds itself; in the end it lets go of it. -/
theorem Step.holders (h : Step post d before after d') (owns : post.Owns before.share?)
    (enough : weight before.share? ≤ d.holders) (emptied : d.holders = 0 → d.queue = []) :
    d'.holders + (weight before.share? + weight d.gate.native)
        = d.holders + (weight after.share? + weight d'.gate.native) ∧
      (d'.holders = 0 → d'.queue = []) := by
  cases h with
  | took =>
    refine ⟨?_, emptied⟩
    simp [share?]
  | announced native => exact ⟨rfl, emptied⟩
  | departed native =>
    have hletGo := Post.holders_letGoShare owns enough emptied
    refine ⟨?_, hletGo.2⟩
    have hholders := hletGo.1
    simp only [share?, Lobby.gate_letGoShare, weight_none] at hholders ⊢
    omega
  | finished => exact ⟨rfl, emptied⟩

theorem Step.owns (h : Step post d before after d') (owns : post.Owns before.share?)
    (gate : post.Owns d.gate.native) :
    post.Owns after.share? ∧ post.Owns d'.gate.native := by
  cases h with
  | took => exact ⟨gate, Post.owns_none⟩
  | announced | finished => exact ⟨owns, gate⟩
  | departed => exact ⟨Post.owns_none, by simpa using gate⟩

theorem mem_notice {leave : Leave} {visits : List Visit} {visit : Visit}
    (hmem : visit ∈ leave.notice visits) :
    visit ∈ visits ∨ ∃ other ∈ visits, visit = other.told := by
  cases leave with
  | taken native =>
    obtain ⟨other, hother, rfl⟩ := List.mem_map.1 hmem
    exact .inr ⟨other, hother, rfl⟩
  | _ => exact .inl hmem

theorem countP_notice (leave : Leave) (visits : List Visit) :
    (leave.notice visits).countP (·.share?.isSome) = visits.countP (·.share?.isSome) := by
  cases leave with
  | taken native => simp [notice, List.countP_map, Function.comp_def]
  | _ => rfl

end Leave

namespace Reception

/-- The shares of the native listener: that of the gate, and those of accepts and closes. -/
def shares (r : Reception) : Nat :=
  weight r.lobby.gate.native + r.visits.countP (·.share?.isSome) + r.leaves.countP (·.share?.isSome)

/-- The native listener has as many holders as there are shares of it. -/
structure Accounts (r : Reception) : Prop where
  gate : r.post.Owns r.lobby.gate.native
  visits : ∀ visit ∈ r.visits, r.post.Owns visit.share?
  leaves : ∀ leave ∈ r.leaves, r.post.Owns leave.share?
  holders : r.lobby.holders = r.shares
  emptied : r.lobby.holders = 0 → r.lobby.queue = []

variable {r r' : Reception}

theorem accounts_start (post : Post) : (start post).Accounts where
  gate := fun _ h => (Option.some.inj h).symm
  visits := by simp [start]
  leaves := by simp [start]
  holders := rfl
  emptied := by simp [start]

theorem Accounts.weight_visit_le (h : r.Accounts) {index : Nat} {visit : Visit}
    (there : r.visits[index]? = some visit) : weight visit.share? ≤ r.lobby.holders := by
  have hle := toNat_le_countP (·.share?.isSome) there
  rw [h.holders, shares]
  exact Nat.le_trans hle (by omega)

theorem Accounts.weight_leave_le (h : r.Accounts) {index : Nat} {leave : Leave}
    (there : r.leaves[index]? = some leave) : weight leave.share? ≤ r.lobby.holders := by
  have hle := toNat_le_countP (·.share?.isSome) there
  rw [h.holders, shares]
  exact Nat.le_trans hle (by omega)

theorem Delivers.socket_ne (h : r.Delivers) {arrival : Arrival} (hmem : arrival ∈ r.lobby.queue) :
    arrival.socket ≠ r.post.socket := by
  rintro heq
  have hlt := (h.number_lt (h.queued arrival hmem)).1
  rw [heq] at hlt
  exact Nat.lt_irrefl _ hlt

/-- One accept and the holders change, and nothing else. -/
theorem Accounts.of_visit (h : r.Accounts) {index : Nat} {before after : Visit} {lobby : Lobby}
    (there : r.visits[index]? = some before) (gate : lobby.gate = r.lobby.gate)
    (owns : r.post.Owns after.share?)
    (holders : lobby.holders + weight before.share? = r.lobby.holders + weight after.share?)
    (emptied : lobby.holders = 0 → lobby.queue = []) :
    Accounts { r with visits := r.visits.set index after, lobby := lobby } where
  gate := gate ▸ h.gate
  visits := forall_mem_set h.visits index owns
  leaves := h.leaves
  holders := by
    have hcount := countP_set_add (·.share?.isSome) there after
    have hbefore := h.holders
    simp only [shares, weight, gate] at hbefore holders ⊢
    omega
  emptied := emptied

theorem Accounts.change (h : r.Accounts) (delivers : r.Delivers) {event : Event}
    (change : Change r event r') : r'.Accounts := by
  cases change with
  | arrived there => exact ⟨h.gate, h.visits, h.leaves, h.holders, fun gone => absurd gone there⟩
  | called =>
    refine ⟨h.gate, forall_mem_concat h.visits Post.owns_none, h.leaves, ?_, h.emptied⟩
    simpa [shares, Visit.share?] using h.holders
  | visited there step =>
    have hholders := step.holders (h.visits _ (List.mem_of_getElem? there))
      (fun _ => delivers.socket_ne) (h.weight_visit_le there) h.emptied
    exact h.of_visit there step.gate (step.owns (h.visits _ (List.mem_of_getElem? there)) h.gate)
      hholders.1 hholders.2
  | leftOff there =>
    have hletGo := Post.holders_letGoShare (h.visits _ (List.mem_of_getElem? there))
      (h.weight_visit_le there) h.emptied
    exact h.of_visit there (Lobby.gate_letGoShare _ _ _) Post.owns_none hletGo.1 hletGo.2
  | closeCalled =>
    refine ⟨h.gate, h.visits, forall_mem_concat h.leaves Post.owns_none, ?_, h.emptied⟩
    simpa [shares, Leave.share?] using h.holders
  | @left index before after lobby there step =>
    have howns := step.owns (h.leaves _ (List.mem_of_getElem? there)) h.gate
    have hholders := step.holders (h.leaves _ (List.mem_of_getElem? there))
      (h.weight_leave_le there) h.emptied
    refine ⟨howns.2, ?_, forall_mem_set h.leaves index howns.1, ?_, hholders.2⟩
    · intro visit hmem
      rcases Leave.mem_notice hmem with hold | ⟨other, hold, rfl⟩
      · exact h.visits visit hold
      · simpa using h.visits other hold
    · have hcount := countP_set_add (·.share?.isSome) there after
      have hbefore := h.holders
      have hmoved := hholders.1
      simp only [shares, weight, Leave.countP_notice] at hbefore hmoved ⊢
      omega
  | turnedAway | noVisit | nobodyLeft | noLeave => exact h

end Reception

/-! ## Every announcement is heard of -/

namespace Visit

/-- After an announcement, an accept that is told of announcements has one to read. -/
theorem Step.told {post : Post} {d d' : Lobby} {before after : Visit}
    (h : Step post d before after d') (closing : d.gate.closing = true)
    (told : before.told = before) : after.told = after := by
  cases h with
  | foundNothing unheard =>
    cases told
    simp [closing] at unheard
  | finished => exact told
  | _ => rfl

/-- An accept learns of a close only where a close has been. -/
theorem Step.closed {post : Post} {d d' : Lobby} {before after : Visit}
    (h : Step post d before after d')
    (closed : after = .ended (.error (Gate.closedFault post.addr))) :
    before = .ended (.error (Gate.closedFault post.addr)) ∨ d.gate.native = none ∨
      d.gate.closing = true := by
  cases h with
  | refused taken => exact .inr (.inl taken)
  | @found native unread result d' finds =>
    generalize hheard : (unread && d.gate.closing) = heard at finds
    cases finds with
    | closed => exact .inr (.inr (Bool.and_eq_true_iff.1 hheard).2)
    | _ => cases closed
  | finished => exact .inl closed
  | _ => cases closed

end Visit

namespace Reception

/-- The gate shows what closes have done, and no accept misses an announcement. -/
structure Announces (r : Reception) : Prop where
  taken : r.lobby.gate.native = none ↔ ∃ leave ∈ r.leaves, leave.hasTaken = true
  closing : r.lobby.gate.closing = true ↔ ∃ leave ∈ r.leaves, leave.hasAnnounced = true
  told : r.lobby.gate.closing = true → ∀ visit ∈ r.visits, visit.told = visit
  honest : Visit.ended (.error (Gate.closedFault r.post.addr)) ∈ r.visits →
    ∃ leave ∈ r.leaves, leave.hasTaken = true
  succeeded : ∀ leave ∈ r.leaves, ∀ result, leave = .ended result → result = .ok ()

variable {r r' : Reception}

theorem announces_start (post : Post) : (start post).Announces where
  taken := by simp [start]
  closing := by simp [start]
  told := by simp [start]
  honest := by simp [start]
  succeeded := by simp [start]

theorem Announces.native_of_closing (h : r.Announces) (closing : r.lobby.gate.closing = true) :
    r.lobby.gate.native = none := by
  obtain ⟨leave, hmem, hannounced⟩ := h.closing.1 closing
  refine h.taken.2 ⟨leave, hmem, ?_⟩
  cases leave <;> first | rfl | cases hannounced

/-- One accept changes, and nothing else. -/
theorem Announces.of_visit (h : r.Announces) (index : Nat) {after : Visit} {lobby : Lobby}
    (gate : lobby.gate = r.lobby.gate)
    (told : r.lobby.gate.closing = true → after.told = after)
    (honest : after = .ended (.error (Gate.closedFault r.post.addr)) →
      ∃ leave ∈ r.leaves, leave.hasTaken = true) :
    Announces { r with visits := r.visits.set index after, lobby := lobby } where
  taken := gate ▸ h.taken
  closing := gate ▸ h.closing
  told := by
    intro closing
    have hclosing : r.lobby.gate.closing = true := gate ▸ closing
    exact forall_mem_set (h.told hclosing) index (told hclosing)
  honest := by
    intro hmem
    rcases List.mem_or_eq_of_mem_set hmem with hold | heq
    · exact h.honest hold
    · exact honest heq.symm
  succeeded := h.succeeded

/-- A close that has taken the native listener away goes on. -/
theorem Announces.went_on (h : r.Announces) {index : Nat} {before after : Leave} {lobby : Lobby}
    (there : r.leaves[index]? = some before)
    (taken : lobby.gate.native = none) (closing : lobby.gate.closing = true)
    (announced : after.hasAnnounced = true)
    (told : ∀ visit ∈ before.notice r.visits, visit.told = visit)
    (succeeded : ∀ result, after = .ended result → result = .ok ()) :
    Announces
      { r with
        leaves := r.leaves.set index after
        visits := before.notice r.visits
        lobby := lobby } := by
  have hlt : index < r.leaves.length := (List.getElem?_eq_some_iff.1 there).1
  have hmem : after ∈ r.leaves.set index after := List.mem_set hlt after
  have hafter : after.hasTaken = true := by
    cases after <;> first | rfl | cases announced
  refine ⟨iff_of_true taken ⟨after, hmem, hafter⟩, iff_of_true closing ⟨after, hmem, announced⟩,
    fun _ => told, fun _ => ⟨after, hmem, hafter⟩, forall_mem_set h.succeeded index succeeded⟩

theorem Announces.left (h : r.Announces) {index : Nat} {before after : Leave} {lobby : Lobby}
    (there : r.leaves[index]? = some before) (step : before.Step r.post r.lobby after lobby) :
    Announces
      { r with
        leaves := r.leaves.set index after
        visits := before.notice r.visits
        lobby := lobby } := by
  have hmem : before ∈ r.leaves := List.mem_of_getElem? there
  cases step with
  | took =>
    have hlt : index < r.leaves.length := (List.getElem?_eq_some_iff.1 there).1
    have hcount : (r.leaves.set index (.taken r.lobby.gate.native)).countP Leave.hasAnnounced
        = r.leaves.countP Leave.hasAnnounced := by
      simpa [Leave.hasAnnounced] using
        countP_set_add Leave.hasAnnounced there (.taken r.lobby.gate.native)
    have htaken : ∃ leave ∈ r.leaves.set index (.taken r.lobby.gate.native),
        leave.hasTaken = true := ⟨_, List.mem_set hlt _, rfl⟩
    refine ⟨iff_of_true rfl htaken, ?_, h.told, fun _ => htaken,
      forall_mem_set h.succeeded index fun _ heq => by cases heq⟩
    rw [← List.countP_pos_iff, hcount, List.countP_pos_iff]
    exact h.closing
  | announced native =>
    refine h.went_on there (h.taken.2 ⟨_, hmem, rfl⟩) rfl rfl ?_ (fun _ heq => by cases heq)
    intro visit hvisit
    obtain ⟨other, -, rfl⟩ := List.mem_map.1 hvisit
    exact other.told_told
  | departed native =>
    have hclosing := h.closing.2 ⟨_, hmem, rfl⟩
    have hgate := r.lobby.gate_letGoShare r.post.socket native
    exact h.went_on there (hgate ▸ h.native_of_closing hclosing) (hgate ▸ hclosing) rfl
      (h.told hclosing) (fun _ heq => by cases heq; rfl)
  | finished result =>
    have hclosing := h.closing.2 ⟨_, hmem, rfl⟩
    exact h.went_on there (h.native_of_closing hclosing) hclosing rfl (h.told hclosing)
      (h.succeeded _ hmem)

theorem Announces.change (h : r.Announces) {event : Event} (change : Change r event r') :
    r'.Announces := by
  cases change with
  | arrived => exact ⟨h.taken, h.closing, h.told, h.honest, h.succeeded⟩
  | called =>
    refine ⟨h.taken, h.closing, fun closing => forall_mem_concat (h.told closing) rfl, ?_,
      h.succeeded⟩
    simpa using h.honest
  | visited there step =>
    have hmem := List.mem_of_getElem? there
    refine h.of_visit _ step.gate (fun closing => step.told closing (h.told closing _ hmem)) ?_
    intro closed
    rcases step.closed closed with hbefore | hnative | hclosing
    · exact h.honest (hbefore ▸ hmem)
    · exact h.taken.1 hnative
    · exact h.taken.1 (h.native_of_closing hclosing)
  | leftOff there =>
    exact h.of_visit _ (Lobby.gate_letGoShare _ _ _) (fun _ => rfl) (fun heq => by cases heq)
  | closeCalled =>
    refine ⟨?_, ?_, h.told, ?_, forall_mem_concat h.succeeded fun _ heq => by cases heq⟩
    · simpa [Leave.hasTaken, or_and_right, exists_or] using h.taken
    · simpa [Leave.hasAnnounced, or_and_right, exists_or] using h.closing
    · simpa [Leave.hasTaken, or_and_right, exists_or] using h.honest
  | left there step => exact h.left there step
  | turnedAway | noVisit | nobodyLeft | noLeave => exact h

/-! ## Runs -/

/-- What stays true of a listener. -/
structure Sound (r : Reception) : Prop where
  delivers : r.Delivers
  accounts : r.Accounts
  announces : r.Announces

theorem sound_start (post : Post) : (start post).Sound :=
  ⟨delivers_start post, accounts_start post, announces_start post⟩

theorem Sound.step (h : r.Sound) (event : Event) : (r.step event).Sound :=
  have change := change_step r event
  ⟨h.delivers.change change, h.accounts.change h.delivers change, h.announces.change change⟩

/-- What stays true at every event stays true of a run. -/
theorem run_induction {P : Reception → Prop} (h : P r) (events : List Event)
    (step : ∀ r event, P r → P (r.step event)) : P (r.run events) := by
  induction events generalizing r with
  | nil => exact h
  | cons event rest ih => exact ih (step r event h)

theorem Sound.run (h : r.Sound) (events : List Event) : (r.run events).Sound :=
  run_induction h events fun _ event h => h.step event

theorem sound_run (post : Post) (events : List Event) : ((start post).run events).Sound :=
  (sound_start post).run events

theorem post_step (r : Reception) (event : Event) : (r.step event).post = r.post := by
  generalize hafter : r.step event = after
  cases hafter ▸ change_step r event <;> rfl

@[simp] theorem post_run (r : Reception) (events : List Event) : (r.run events).post = r.post :=
  run_induction (P := fun after => after.post = r.post) rfl events fun after event h =>
    (post_step after event).trans h

end Reception

end Switchboard.Tcp
