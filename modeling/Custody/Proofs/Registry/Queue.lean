import Custody.Proofs.Registry.Books

/-!
# Held owners and dropped owners

What a registry knows of its owners while their entries are in the table. An owner that is held
has its entry there, and a token that is alive (`Holding`). One that has been dropped and still
has its entry there has a notice on its way to the daemon (`Queue`). Nobody else has an entry.

A notice may be late: a sweep can have taken up the entry in the meantime. That is the one case
in which a notice of an owner waits that has no entry any more.

Both properties speak of the table and the ledger through the entries that keys find, and so each
step that takes an entry out or puts one in has a lemma about each of them. An owner goes from the
one to the other when it is dropped (`Queue.post`), and its token dies only after its notice is on
its way, so that a sweep that finds the token dead competes with a notice and never with nothing.
-/

namespace Custody

variable {ε : Type} {table rest : SlotTable} {ledger ledger' : Ledger ε}
  {owners held dropped : List Owner}
  {refused swept : List ActionId} {moving : List Entry} {notices : List SlotKey}
  {owner other : Owner} {entry : Entry} {key : SlotKey}

/-- **The owners that are held** have their entries in the table, and are alive. -/
structure Holding (table : SlotTable) (ledger : Ledger ε) (owners held : List Owner) : Prop where
  /-- Nobody is held twice. -/
  nodup : held.Nodup
  /-- Only owners are held. -/
  accepted : ∀ owner ∈ held, owner ∈ owners
  /-- The entry of an owner that is held is in the table. -/
  present : ∀ owner ∈ held, table.find? owner.key = some owner.entry
  /-- The token of an owner that is held is alive. -/
  alive : ∀ owner ∈ held, ledger.isAlive owner.token = true

/-- **The notices that wait for the daemon** are those of owners that were dropped, and every
such owner that has an entry has one. -/
structure Queue (table : SlotTable) (notices : List SlotKey) (owners held dropped : List Owner)
    (swept : List ActionId) : Prop where
  /-- No owner has two notices. -/
  notices_nodup : notices.Nodup
  /-- A notice is that of an owner that was dropped. -/
  of_dropped : ∀ key ∈ notices, ∃ owner ∈ dropped, owner.key = key
  /-- An owner with an entry is held or has a notice. -/
  waiting : ∀ owner ∈ owners, table.find? owner.key = some owner.entry →
    owner ∈ held ∨ owner ∈ dropped ∧ owner.key ∈ notices
  /-- An owner with a notice has an entry, or a sweep came first. -/
  queued : ∀ owner ∈ dropped, owner.key ∈ notices →
    table.find? owner.key = some owner.entry ∨ owner.action ∈ swept
  /-- What a sweep has taken up is not in the table. -/
  swept_gone : ∀ id ∈ swept, ∃ owner ∈ owners, owner.action = id
    ∧ table.find? owner.key ≠ some owner.entry
  /-- Nobody is dropped twice. -/
  dropped_nodup : dropped.Nodup
  /-- An owner that was dropped is not held. -/
  not_held : ∀ owner ∈ dropped, owner ∈ owners ∧ owner ∉ held

/-! ## Owners that are held -/

namespace Holding

theorem of_alive (h : Holding table ledger owners held)
    (halive : ∀ owner ∈ held, ledger'.isAlive owner.token = ledger.isAlive owner.token) :
    Holding table ledger' owners held where
  __ := h
  alive owner ho := (halive owner ho).trans (h.alive owner ho)

theorem of_tokens (h : Holding table ledger owners held)
    (htokens : ledger'.tokens = ledger.tokens) :
    Holding table ledger' owners held :=
  h.of_alive fun _ _ => by rw [Ledger.isAlive, Ledger.isAlive, htokens]

/-- The token of somebody who is not held may die. -/
theorem kill (h : Holding table ledger owners held) (hb : Books table ledger owners refused moving)
    (ho : owner ∈ owners) (hout : owner ∉ held) :
    Holding table (ledger.kill owner.token) owners held := by
  refine h.of_alive fun other hp => ?_
  have hne : other.token ≠ owner.token := by
    intro heq
    rw [(hb.numbered other (h.accepted other hp)).2, (hb.numbered owner ho).2] at heq
    exact hout (hb.eq_of_action_eq (h.accepted other hp) ho heq ▸ hp)
  rw [Ledger.isAlive_kill, if_neg hne]

theorem erase (h : Holding table ledger owners held) (owner : Owner) :
    Holding table ledger owners (held.erase owner) where
  nodup := h.nodup.erase owner
  accepted other hp := h.accepted other (List.mem_of_mem_erase hp)
  present other hp := h.present other (List.mem_of_mem_erase hp)
  alive other hp := h.alive other (List.mem_of_mem_erase hp)

/-- The entry of somebody who is not held may be taken out. -/
theorem take (h : Holding table ledger owners held) (hb : Books table ledger owners refused moving)
    (ho : owner ∈ owners) (hout : owner ∉ held)
    (htake : table.take owner.key = some (entry, rest)) : Holding rest ledger owners held where
  __ := h
  present other hp := (hb.find?_take_iff ho htake (h.accepted other hp)).mpr
    ⟨h.present other hp, fun heq => hout (heq ▸ hp)⟩

variable (owner) in
/-- A new owner is held. -/
theorem place (h : Holding table ledger owners held) (hb : Books table ledger owners refused moving)
    (hlast : table.Lasting) (hkey : (table.place owner.entry).1 = owner.key)
    (hfresh : ∀ other ∈ owners, other.action ≠ owner.action)
    (halive : ledger.isAlive owner.token = true) :
    Holding (table.place owner.entry).2 ledger (owner :: owners) (owner :: held) := by
  have hfind := hb.sound.find?_place owner.entry
  rw [hkey] at hfind
  refine ⟨List.nodup_cons.mpr ⟨fun hc => hfresh owner (h.accepted owner hc) rfl, h.nodup⟩,
    List.forall_mem_cons.mpr ⟨List.mem_cons_self, fun other hp =>
      List.mem_cons_of_mem _ (h.accepted other hp)⟩,
    List.forall_mem_cons.mpr ⟨?_, fun other hp => ?_⟩,
    List.forall_mem_cons.mpr ⟨halive, h.alive⟩⟩
  · rw [hfind, if_pos rfl]
  · rw [hfind, if_neg (hkey ▸ hb.key_ne_place hlast owner.entry (h.accepted other hp))]
    exact h.present other hp

end Holding

/-! ## Owners that were dropped -/

namespace Queue

variable (owner) in
/-- A new owner has no notice. -/
theorem place (h : Queue table notices owners held dropped swept)
    (hb : Books table ledger owners refused moving) (hlast : table.Lasting)
    (hfresh : ∀ other ∈ owners, other.action ≠ owner.action) :
    Queue (table.place owner.entry).2 notices (owner :: owners) (owner :: held) dropped swept := by
  have hfind : ∀ other ∈ owners,
      (table.place owner.entry).2.find? other.key = table.find? other.key := by
    intro other hp
    rw [hb.sound.find?_place, if_neg (hb.key_ne_place hlast owner.entry hp)]
  refine
    { h with
      waiting := List.forall_mem_cons.mpr ⟨fun _ => Or.inl List.mem_cons_self, ?_⟩
      queued := ?_
      swept_gone := ?_
      not_held := ?_ }
  · intro other hp hfound
    rw [hfind other hp] at hfound
    exact (h.waiting other hp hfound).imp_left (List.mem_cons_of_mem _)
  · intro other hp hnotice
    rw [hfind other (h.not_held other hp).1]
    exact h.queued other hp hnotice
  · intro id hid
    obtain ⟨other, hp, hid', hgone⟩ := h.swept_gone id hid
    exact ⟨other, List.mem_cons_of_mem _ hp, hid', by rwa [hfind other hp]⟩
  · intro other hp
    obtain ⟨hacc, hout⟩ := h.not_held other hp
    refine ⟨List.mem_cons_of_mem _ hacc, ?_⟩
    rw [List.mem_cons, not_or]
    exact ⟨fun heq => hfresh other hacc (congrArg Owner.action heq), hout⟩

/-- An owner that is held takes its entry out. -/
theorem withdraw (h : Queue table notices owners held dropped swept)
    (hb : Books table ledger owners refused moving) (hh : Holding table ledger owners held)
    (ho : owner ∈ held) (htake : table.take owner.key = some (entry, rest)) :
    Queue rest notices owners (held.erase owner) dropped swept := by
  have hiff := fun {p} (hp : p ∈ owners) => hb.find?_take_iff (hh.accepted owner ho) htake hp
  refine
    { h with
      waiting := ?_
      queued := ?_
      swept_gone := ?_
      not_held := fun other hp => ⟨(h.not_held other hp).1,
        fun hc => (h.not_held other hp).2 (List.mem_of_mem_erase hc)⟩ }
  · intro other hp hfound
    obtain ⟨hfound', hne⟩ := (hiff hp).mp hfound
    exact (h.waiting other hp hfound').imp_left (List.mem_erase_of_ne hne).mpr
  · intro other hp hnotice
    obtain ⟨hacc, hout⟩ := h.not_held other hp
    exact (h.queued other hp hnotice).imp_left fun hfound =>
      (hiff hacc).mpr ⟨hfound, fun heq => hout (heq ▸ ho)⟩
  · intro id hid
    obtain ⟨other, hp, hid', hgone⟩ := h.swept_gone id hid
    exact ⟨other, hp, hid', fun hc => hgone ((hiff hp).mp hc).1⟩

/-- An owner that is held is dropped and posts its notice. -/
theorem post (h : Queue table notices owners held dropped swept)
    (hb : Books table ledger owners refused moving) (hh : Holding table ledger owners held)
    (ho : owner ∈ held) :
    Queue table (notices ++ [owner.key]) owners (held.erase owner) (owner :: dropped) swept := by
  have hacc := hh.accepted owner ho
  have hnew : ∀ other ∈ dropped, other ≠ owner :=
    fun other hp heq => (h.not_held other hp).2 (heq ▸ ho)
  -- The notices that wait are those of owners that were dropped before, under other keys.
  have hkey : owner.key ∉ notices := by
    intro hc
    obtain ⟨other, hp, heq⟩ := h.of_dropped _ hc
    exact hnew other hp (hb.eq_of_key_eq (h.not_held other hp).1 hacc heq)
  refine ⟨?_, ?_, ?_, ?_, h.swept_gone, ?_, ?_⟩
  · rw [List.nodup_append]
    refine ⟨h.notices_nodup, List.nodup_singleton _, fun a ha b hbm heq => hkey ?_⟩
    rwa [← List.mem_singleton.mp hbm, ← heq]
  · intro key hmem
    cases List.mem_append.mp hmem with
    | inl hold =>
      obtain ⟨other, hp, heq⟩ := h.of_dropped key hold
      exact ⟨other, List.mem_cons_of_mem _ hp, heq⟩
    | inr hlast => exact ⟨owner, List.mem_cons_self, (List.mem_singleton.mp hlast).symm⟩
  · intro other hp hfound
    by_cases heq : other = owner
    · rw [heq]
      exact Or.inr ⟨List.mem_cons_self, List.mem_append_right _ (List.mem_singleton_self _)⟩
    · exact (h.waiting other hp hfound).imp (List.mem_erase_of_ne heq).mpr
        (And.imp (List.mem_cons_of_mem _) (List.mem_append_left _))
  · refine List.forall_mem_cons.mpr
      ⟨fun _ => Or.inl (hh.present owner ho), fun other hp hnotice => ?_⟩
    refine h.queued other hp ((List.mem_append.mp hnotice).resolve_right fun hlast => ?_)
    exact hnew other hp
      (hb.eq_of_key_eq (h.not_held other hp).1 hacc (List.mem_singleton.mp hlast))
  · exact List.nodup_cons.mpr ⟨fun hc => hnew owner hc rfl, h.dropped_nodup⟩
  · exact List.forall_mem_cons.mpr ⟨⟨hacc, fun hc => (hh.nodup.mem_erase_iff.mp hc).1 rfl⟩,
      fun other hp => ⟨(h.not_held other hp).1,
        fun hc => (h.not_held other hp).2 (List.mem_of_mem_erase hc)⟩⟩

/-- A sweep takes up the entry of somebody who is not held. -/
theorem sweep (h : Queue table notices owners held dropped swept)
    (hb : Books table ledger owners refused moving) (ho : owner ∈ owners)
    (htake : table.take owner.key = some (entry, rest)) :
    Queue rest notices owners held dropped (owner.action :: swept) := by
  have hiff := fun {p} (hp : p ∈ owners) => hb.find?_take_iff ho htake hp
  refine
    { h with
      waiting := fun other hp hfound => h.waiting other hp ((hiff hp).mp hfound).1
      queued := ?_
      swept_gone :=
        List.forall_mem_cons.mpr ⟨⟨owner, ho, rfl, fun hc => ((hiff ho).mp hc).2 rfl⟩, ?_⟩ }
  · intro other hp hnotice
    by_cases heq : other = owner
    · rw [heq]
      exact Or.inr List.mem_cons_self
    · exact (h.queued other hp hnotice).imp
        (fun hfound => (hiff (h.not_held other hp).1).mpr ⟨hfound, heq⟩) (List.mem_cons_of_mem _)
  · intro id hid
    obtain ⟨other, hp, hid', hgone⟩ := h.swept_gone id hid
    exact ⟨other, hp, hid', fun hc => hgone ((hiff hp).mp hc).1⟩

/-- The owner of a notice is not held. -/
theorem key_ne (h : Queue table notices owners held dropped swept)
    (hb : Books table ledger owners refused moving) (hh : Holding table ledger owners held)
    (hkey : key ∈ notices) : ∀ owner ∈ held, owner.key ≠ key := by
  intro owner ho heq
  obtain ⟨other, hp, hother⟩ := h.of_dropped key hkey
  obtain ⟨hacc, hout⟩ := h.not_held other hp
  exact hout (hb.eq_of_key_eq (hh.accepted owner ho) hacc (heq.trans hother.symm) ▸ ho)

/-- A notice comes too late. -/
theorem late (h : Queue table (key :: notices) owners held dropped swept)
    (hnone : table.find? key = none) : Queue table notices owners held dropped swept where
  __ := h
  notices_nodup := (List.nodup_cons.mp h.notices_nodup).2
  of_dropped other hp := h.of_dropped other (List.mem_cons_of_mem _ hp)
  queued other hp hnotice := h.queued other hp (List.mem_cons_of_mem _ hnotice)
  waiting other hp hfound := by
    refine (h.waiting other hp hfound).imp_right fun ⟨hdropped, hnotice⟩ => ⟨hdropped, ?_⟩
    refine (List.mem_cons.mp hnotice).resolve_left fun heq => ?_
    rw [heq, hnone] at hfound
    cases hfound

/-- The oldest notice is taken up with the entry that it names. -/
theorem notice (h : Queue table (owner.key :: notices) owners held dropped swept)
    (hb : Books table ledger owners refused moving) (ho : owner ∈ owners)
    (htake : table.take owner.key = some (entry, rest)) :
    Queue rest notices owners held dropped swept := by
  have hiff := fun {p} (hp : p ∈ owners) => hb.find?_take_iff ho htake hp
  obtain ⟨hout, hnodup⟩ := List.nodup_cons.mp h.notices_nodup
  refine
    { h with
      notices_nodup := hnodup
      of_dropped := fun other hp => h.of_dropped other (List.mem_cons_of_mem _ hp)
      waiting := ?_
      queued := ?_
      swept_gone := ?_ }
  · -- Whoever still has an entry is not the owner of this notice.
    intro other hp hfound
    obtain ⟨hfound', hne⟩ := (hiff hp).mp hfound
    refine (h.waiting other hp hfound').imp_right fun ⟨hdropped, hnotice⟩ => ⟨hdropped, ?_⟩
    exact (List.mem_cons.mp hnotice).resolve_left fun heq => hne (hb.eq_of_key_eq hp ho heq)
  · intro other hp hnotice
    refine (h.queued other hp (List.mem_cons_of_mem _ hnotice)).imp_left fun hfound => ?_
    exact (hiff (h.not_held other hp).1).mpr ⟨hfound, fun heq => hout (heq ▸ hnotice)⟩
  · intro id hid
    obtain ⟨other, hp, hid', hgone⟩ := h.swept_gone id hid
    exact ⟨other, hp, hid', fun hc => hgone ((hiff hp).mp hc).1⟩

end Queue

end Custody
