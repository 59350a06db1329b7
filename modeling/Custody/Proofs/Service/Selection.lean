import Custody.Proofs.Service.Outcomes
import Custody.Service.Selection

/-!
# Selection is total and faithful

A look-up binds one entry point after the other, each by the name under which it is exported, and
the version is checked after the first of them. What comes of it is told by the names that resolve
and the version alone (`Probed`): it succeeds where all names resolve and the version is right, and
otherwise it fails by the first step that fails (`probed`).

A selection takes the services of one backend, the one looked up where that is wanted and succeeds
and the one bound in advance otherwise, and its report says which and why (`Selected`). It always
comes to an end with a selection (`select_total`).

The names are bound in a fixed order, and a look-up stops at the first one that is missing. An
induction over the symbols that are still to be bound gives the state after each of them, in which
nothing is seen but that so many names were looked up. The version is checked when there is one
binding already, so that a library of another version which also lacks the first name is reported
for the name.
-/

namespace Custody

variable {σ : Type}

/-! ## The services of a backend -/

/-- One of the services. -/
inductive Port
  | digest
  | keySpec
  | kem
  | kdf
  | signature
  | faults
  deriving DecidableEq

/-- The backend that a service reaches. -/
def Port.of (services : Services σ) : Port → Backend σ
  | digest => services.digest
  | keySpec => services.keySpec
  | kem => services.kem
  | kdf => services.kdf
  | signature => services.signature
  | faults => services.faults

/-- **Services of one backend**, of which they tell the kind. -/
structure Services.From (services : Services σ) (backend : Backend σ) : Prop where
  /-- The kind is that of the backend. -/
  kind : services.kind = backend.kind
  /-- Each service reaches the backend. -/
  port : ∀ port : Port, port.of services = backend

@[simp] theorem Port.of_ofBackend (port : Port) (backend : Backend σ) :
    port.of (.ofBackend backend) = backend := by
  cases port <;> rfl

theorem Services.from_ofBackend (backend : Backend σ) : (Services.ofBackend backend).From backend :=
  ⟨rfl, fun port => port.of_ofBackend backend⟩

/-! ## Binding one entry point after the other -/

namespace Exports

variable {lookup : Exports σ} {symbol : Symbol} {symbols before later : List Symbol}
  {bound entries : Symbol → EntryPoint σ}

/-- Whether the name of a symbol resolves. -/
def Resolves (lookup : Exports σ) (symbol : Symbol) : Prop := (lookup symbol.name).isSome

/-- **The first of some symbols that is missing**: its name does not resolve, and those of all
before it do. -/
def FirstMissing (lookup : Exports σ) (symbol : Symbol) (symbols : List Symbol) : Prop :=
  ∃ before later, symbols = before ++ symbol :: later
    ∧ (∀ earlier ∈ before, lookup.Resolves earlier) ∧ ¬ lookup.Resolves symbol

theorem resolve_of_some {entry : EntryPoint σ} (h : lookup symbol.name = some entry) :
    lookup.resolve symbol.name = .ok entry := by
  rw [resolve, h]

theorem resolve_of_not_resolves (h : ¬ lookup.Resolves symbol) :
    lookup.resolve symbol.name = .error (unresolved symbol.name) := by
  rw [resolve, Option.not_isSome_iff_eq_none.mp h]

theorem Resolves.exists_eq_some (h : lookup.Resolves symbol) :
    ∃ entry, lookup symbol.name = some entry :=
  Option.isSome_iff_exists.mp h

/-- Some symbols with the names under which they are exported. -/
def named (symbols : List Symbol) : List (Symbol × String) :=
  symbols.map fun symbol => (symbol, symbol.name)

/-- **All that resolves is bound**, each symbol to the entry point under its name. -/
theorem bindAll_of_forall (h : ∀ symbol ∈ symbols, lookup symbol.name = some (entries symbol)) :
    lookup.bindAll (named symbols) bound
      = .ok fun symbol => if symbol ∈ symbols then entries symbol else bound symbol := by
  induction symbols generalizing bound with
  | nil =>
    show Except.ok bound = .ok _
    exact congrArg Except.ok (funext fun symbol => (if_neg List.not_mem_nil).symm)
  | cons symbol symbols ih =>
    have hsymbol := h symbol List.mem_cons_self
    have hsymbols := fun other hother => h other (List.mem_cons_of_mem symbol hother)
    show (lookup.resolve symbol.name >>= fun entry => lookup.bindAll (named symbols) _) = _
    rw [resolve_of_some hsymbol]
    show lookup.bindAll (named symbols) _ = _
    rw [ih hsymbols]
    refine congrArg Except.ok (funext fun other => ?_)
    by_cases hother : other ∈ symbols
    · rw [if_pos hother, if_pos (List.mem_cons_of_mem symbol hother)]
    · rw [if_neg hother]
      by_cases heq : other = symbol
      · rw [if_pos heq, if_pos (heq ▸ List.mem_cons_self), heq]
      · rw [if_neg heq, if_neg fun hmem => (List.mem_cons.mp hmem).elim heq hother]

/-- **The first symbol that is missing** ends the binding. -/
theorem bindAll_of_firstMissing (h : lookup.FirstMissing symbol symbols) :
    lookup.bindAll (named symbols) bound = .error (unresolved symbol.name) := by
  obtain ⟨before, later, rfl, hbefore, hsymbol⟩ := h
  induction before generalizing bound with
  | nil =>
    show (lookup.resolve symbol.name >>= fun entry => lookup.bindAll (named later) _) = _
    rw [resolve_of_not_resolves hsymbol]
    rfl
  | cons first before ih =>
    obtain ⟨entry, hentry⟩ := (hbefore first List.mem_cons_self).exists_eq_some
    show (lookup.resolve first.name >>= fun entry =>
      lookup.bindAll (named (before ++ symbol :: later)) _) = _
    rw [resolve_of_some hentry]
    exact ih fun earlier hearlier => hbefore earlier (List.mem_cons_of_mem first hearlier)

/-- A symbol whose name resolves does not change which one is the first that is missing. -/
theorem FirstMissing.cons {first : Symbol} (h : lookup.FirstMissing symbol symbols)
    (hfirst : lookup.Resolves first) : lookup.FirstMissing symbol (first :: symbols) := by
  obtain ⟨before, later, rfl, hbefore, hsymbol⟩ := h
  exact ⟨first :: before, later, rfl, List.forall_mem_cons.mpr ⟨hfirst, hbefore⟩, hsymbol⟩

/-- Either all names resolve, or there is a first symbol that is missing. -/
theorem forall_or_firstMissing (lookup : Exports σ) (symbols : List Symbol) :
    (∀ symbol ∈ symbols, lookup.Resolves symbol)
      ∨ ∃ symbol, lookup.FirstMissing symbol symbols := by
  induction symbols with
  | nil => exact .inl (List.forall_mem_nil _)
  | cons first symbols ih =>
    by_cases hfirst : lookup.Resolves first
    · obtain hall | ⟨symbol, hsymbol⟩ := ih
      · exact .inl (List.forall_mem_cons.mpr ⟨hfirst, hall⟩)
      · exact .inr ⟨symbol, hsymbol.cons hfirst⟩
    · exact .inr ⟨first, [], symbols, rfl, List.forall_mem_nil _, hfirst⟩

end Exports

/-! ## What comes of a look-up -/

/-- **What a look-up comes to**, and the library after it. -/
inductive Probed (lookup : Exports σ) (state : σ) : Except Abort (Resolved σ) × σ → Prop
  /-- There is no entry point for the version. -/
  | unversioned (hversion : ¬ lookup.Resolves .version) :
    Probed lookup state (.error (.failed (unresolved Symbol.version.name)), state)
  /-- The version is another one, whatever else is missing. -/
  | mismatched {entry : EntryPoint σ} {reply : Reply} {after : σ}
    (hentry : lookup Symbol.version.name = some entry)
    (hreply : entry .version state = (reply, after))
    (hversion : reply.status.toUInt32 ≠ interfaceVersion) :
    Probed lookup state (.error (.failed (wrongVersion reply.status.toUInt32)), after)
  /-- The version is right and an entry point is missing. -/
  | incomplete {entry : EntryPoint σ} {reply : Reply} {after : σ} {symbol : Symbol}
    (hentry : lookup Symbol.version.name = some entry)
    (hreply : entry .version state = (reply, after))
    (hversion : reply.status.toUInt32 = interfaceVersion)
    (hsymbol : lookup.FirstMissing symbol Symbol.all) :
    Probed lookup state (.error (.failed (unresolved symbol.name)), after)
  /-- The version is right and all entry points are there. -/
  | complete {entries : Symbol → EntryPoint σ} {reply : Reply} {after : σ}
    (hentries : ∀ symbol, lookup symbol.name = some (entries symbol))
    (hreply : entries .version .version state = (reply, after))
    (hversion : reply.status.toUInt32 = interfaceVersion) :
    Probed lookup state (.ok ⟨⟨.dynamic, entries⟩, interfaceVersion, "custom lookup"⟩, after)

section Probe

variable {lookup : Exports σ} {state after : σ} {entry : EntryPoint σ} {reply : Reply}

/-- A library without a version ends the look-up at once. -/
theorem probe_of_unversioned (h : ¬ lookup.Resolves .version) :
    probe lookup state = (.error (.failed (unresolved Symbol.version.name)), state) := by
  have hresolved : Act.orFail (lookup.resolve versionName) state
      = (.error (.failed (unresolved Symbol.version.name)), state) := by
    rw [versionName_eq, Exports.resolve_of_not_resolves h]
    rfl
  rw [probe, Act.bind_of_error hresolved]

/-- The look-up from the version on. -/
theorem probe_of_version (hentry : lookup Symbol.version.name = some entry)
    (hreply : entry .version state = (reply, after)) : probe lookup state
      = (if reply.status.toUInt32 ≠ interfaceVersion then .fail (wrongVersion reply.status.toUInt32)
        else do
          let entries ← Act.orFail (lookup.bindAll (Exports.named Symbol.all.tail) fun _ => entry)
          return ⟨⟨.dynamic, entries⟩, reply.status.toUInt32, "custom lookup"⟩ :
        Act σ (Resolved σ)) after := by
  have hresolved : Act.orFail (lookup.resolve versionName) state = (.ok entry, state) := by
    rw [versionName_eq, Exports.resolve_of_some hentry]
    rfl
  have hcalled : Act.ofState (entry .version) state = (.ok reply, after) := by
    rw [Act.ofState, hreply]
  rw [probe, Act.bind_of_ok hresolved, Act.bind_of_ok hcalled, bindings_eq]
  rfl

theorem probe_of_mismatched (hentry : lookup Symbol.version.name = some entry)
    (hreply : entry .version state = (reply, after))
    (hversion : reply.status.toUInt32 ≠ interfaceVersion) :
    probe lookup state = (.error (.failed (wrongVersion reply.status.toUInt32)), after) := by
  rw [probe_of_version hentry hreply, if_pos hversion]
  rfl

/-- The version is there, so that the first symbol that is missing comes after it. -/
theorem probe_of_incomplete {symbol : Symbol} (hentry : lookup Symbol.version.name = some entry)
    (hreply : entry .version state = (reply, after))
    (hversion : reply.status.toUInt32 = interfaceVersion)
    (hsymbol : lookup.FirstMissing symbol Symbol.all.tail) :
    probe lookup state = (.error (.failed (unresolved symbol.name)), after) := by
  rw [probe_of_version hentry hreply, if_neg (not_not_intro hversion),
    Exports.bindAll_of_firstMissing hsymbol]
  rfl

theorem probe_of_complete {entries : Symbol → EntryPoint σ}
    (hentries : ∀ symbol, lookup symbol.name = some (entries symbol))
    (hreply : entries .version .version state = (reply, after))
    (hversion : reply.status.toUInt32 = interfaceVersion) : probe lookup state
      = (.ok ⟨⟨.dynamic, entries⟩, interfaceVersion, "custom lookup"⟩, after) := by
  have hall : (fun symbol => if symbol ∈ Symbol.all.tail then entries symbol else entries .version)
      = entries := by
    funext symbol
    obtain rfl | hsymbol := List.mem_cons.mp (show symbol ∈ .version :: Symbol.all.tail from
      symbol.mem_all)
    · exact ite_self _
    · exact if_pos hsymbol
  rw [probe_of_version (hentries .version) hreply, if_neg (not_not_intro hversion),
    Exports.bindAll_of_forall fun symbol _ => hentries symbol, hall, hversion]
  rfl

/-- **A look-up comes to what the names and the version tell.** -/
theorem probed (lookup : Exports σ) (state : σ) : Probed lookup state (probe lookup state) := by
  by_cases hfirst : lookup.Resolves .version
  · obtain ⟨entry, hentry⟩ := hfirst.exists_eq_some
    have hreply : entry .version state = ((entry .version state).1, (entry .version state).2) := rfl
    by_cases hversion : (entry .version state).1.status.toUInt32 = interfaceVersion
    · obtain hall | ⟨symbol, hsymbol⟩ := lookup.forall_or_firstMissing Symbol.all.tail
      · let entries : Symbol → EntryPoint σ := fun symbol => (lookup symbol.name).getD entry
        have hentries : ∀ symbol, lookup symbol.name = some (entries symbol) := fun symbol => by
          have hsymbol : lookup.Resolves symbol := List.forall_mem_cons.mpr ⟨hfirst, hall⟩ symbol
            symbol.mem_all
          obtain ⟨found, hfound⟩ := hsymbol.exists_eq_some
          show _ = some ((lookup symbol.name).getD entry)
          rw [hfound, Option.getD_some]
        have hversioned : entries .version = entry :=
          Option.some.inj ((hentries .version).symm.trans hentry)
        rw [← hversioned] at hreply hversion
        rw [probe_of_complete hentries hreply hversion]
        exact .complete hentries hreply hversion
      · rw [probe_of_incomplete hentry hreply hversion hsymbol]
        exact .incomplete hentry hreply hversion (hsymbol.cons hfirst)
    · rw [probe_of_mismatched hentry hreply hversion]
      exact .mismatched hentry hreply hversion
  · rw [probe_of_unversioned hfirst]
    exact .unversioned hfirst

end Probe

/-- **A look-up succeeds** exactly where all names resolve and the version is the right one. -/
theorem Probed.succeeds_iff {lookup : Exports σ} {state : σ}
    {result : Except Abort (Resolved σ) × σ} (h : Probed lookup state result) :
    (∃ resolved, result.1 = .ok resolved) ↔
      (∀ symbol ∈ Symbol.all, lookup.Resolves symbol)
        ∧ ∃ entry, lookup Symbol.version.name = some entry
          ∧ (entry .version state).1.status.toUInt32 = interfaceVersion := by
  cases h with
  | unversioned hversion =>
    exact ⟨fun ⟨_, hok⟩ => (nomatch hok), fun hall => absurd (hall.1 _ (Symbol.mem_all _)) hversion⟩
  | mismatched hentry hreply hversion =>
    refine ⟨fun ⟨_, hok⟩ => (nomatch hok), fun ⟨_, found, hfound, hright⟩ => ?_⟩
    cases hentry.symm.trans hfound
    rw [hreply] at hright
    exact absurd hright hversion
  | incomplete hentry hreply hversion hsymbol =>
    obtain ⟨before, later, hall, hbefore, hmissing⟩ := hsymbol
    exact ⟨fun ⟨_, hok⟩ => (nomatch hok), fun hresolves =>
      absurd (hresolves.1 _ (Symbol.mem_all _)) hmissing⟩
  | complete hentries hreply hversion =>
    refine ⟨fun _ => ⟨fun symbol _ => ?_, _, hentries .version, ?_⟩, fun _ => ⟨_, rfl⟩⟩
    · show (lookup symbol.name).isSome
      rw [hentries symbol]
      rfl
    · rw [hreply]
      exact hversion

/-- A look-up does not panic, and what it binds was looked up. -/
theorem Probed.cases_outcome {lookup : Exports σ} {state : σ}
    {result : Except Abort (Resolved σ) × σ} (h : Probed lookup state result) :
    (∃ resolved, result.1 = .ok resolved ∧ resolved.backend.kind = .dynamic)
      ∨ ∃ failure, result.1 = .error (.failed failure) := by
  cases h with
  | unversioned => exact .inr ⟨_, rfl⟩
  | mismatched => exact .inr ⟨_, rfl⟩
  | incomplete => exact .inr ⟨_, rfl⟩
  | complete => exact .inl ⟨_, rfl, rfl⟩

/-! ## What is selected -/

/-- **What is selected**, where the look-up is made in a state. -/
structure Selected (lookup : Exports σ) (requested : Preference) (bound : Backend σ) (state : σ)
    (selection : Selection σ) : Prop where
  /-- Where the entry points bound in advance are asked for, these are taken. -/
  unasked : requested = .dispatch → selection.services.From bound
    ∧ selection.report.probe = "not attempted, dispatch requested"
  /-- Where the look-up succeeds, the entry points that it found are taken. -/
  found : requested ≠ .dispatch → ∀ resolved, (probe lookup state).1 = .ok resolved →
    selection.services.From resolved.backend
      ∧ selection.report.probe = "resolved from " ++ resolved.source ++ ", interface version "
        ++ toString resolved.version.toNat
  /-- Where it fails, those bound in advance are taken, and the report has the failure. -/
  fallen : requested ≠ .dispatch → ∀ failure, (probe lookup state).1 = .error (.failed failure) →
    selection.services.From bound ∧ selection.report.probe = failure.message
  /-- Entry points are in use that were looked up exactly where a look-up was made and succeeded. -/
  dynamic : bound.kind = .dispatch → (selection.services.kind = .dynamic ↔
    requested ≠ .dispatch ∧ ∃ resolved, (probe lookup state).1 = .ok resolved)
  /-- The report has the kind of the services. -/
  kind : selection.report.backend = selection.services.kind
  /-- It has what was asked for. -/
  requested : selection.report.requested = requested
  /-- It has the version of the interface. -/
  version : selection.report.interfaceVersion = interfaceVersion

section Select

variable {requested : Preference} {bound : Backend σ} {resolve : Act σ (Resolved σ)}
  {state after : σ}

theorem select_dispatch : select .dispatch bound resolve state
    = (.ok (.ofBackend .dispatch bound "not attempted, dispatch requested"), state) := rfl

theorem select_of_ok {resolved : Resolved σ} (hrequested : requested ≠ .dispatch)
    (h : resolve state = (.ok resolved, after)) : select requested bound resolve state
      = (.ok (.ofBackend requested resolved.backend (Selection.account resolved)), after) := by
  cases requested with
  | dispatch => exact absurd rfl hrequested
  | auto | dynamic =>
    unfold select
    dsimp only
    rw [h]

theorem select_of_failed {failure : Failure} (hrequested : requested ≠ .dispatch)
    (h : resolve state = (.error (.failed failure), after)) :
    select requested bound resolve state
      = (.ok (.ofBackend requested bound failure.message), after) := by
  cases requested with
  | dispatch => exact absurd rfl hrequested
  | auto | dynamic =>
    unfold select
    dsimp only
    rw [h]

end Select

/-- **A look-up is right and a selection faithful to it**, whatever the names that resolve and
whatever is asked for. `tick` is what is seen of a call of the resolver, which is called once unless
the entry points bound in advance are asked for, and otherwise not at all. -/
theorem select_faithful (lookup : Exports σ) (requested : Preference) (bound : Backend σ)
    (tick : σ → σ) (state : σ) :
    Probed lookup state (probe lookup state)
      ∧ ((∃ resolved, (probe lookup state).1 = .ok resolved) ↔
        (∀ symbol ∈ Symbol.all, lookup.Resolves symbol)
          ∧ ∃ entry, lookup Symbol.version.name = some entry
            ∧ (entry .version state).1.status.toUInt32 = interfaceVersion)
      ∧ ∃ selection, select requested bound (fun s => probe lookup (tick s)) state
          = (.ok selection, if requested = .dispatch then state else (probe lookup (tick state)).2)
        ∧ Selected lookup requested bound (tick state) selection := by
  refine ⟨probed lookup state, (probed lookup state).succeeds_iff, ?_⟩
  by_cases hrequested : requested = .dispatch
  · -- Nothing is looked up.
    subst hrequested
    refine ⟨_, select_dispatch, ?_⟩
    exact {
      unasked := fun _ => ⟨Services.from_ofBackend bound, rfl⟩
      found := fun h => absurd rfl h
      fallen := fun h => absurd rfl h
      dynamic := fun hbound => ⟨fun hkind => (nomatch hbound.symm.trans hkind),
        fun h => absurd rfl h.1⟩
      kind := rfl
      requested := rfl
      version := rfl }
  · rw [if_neg hrequested]
    obtain ⟨resolved, hok, hdynamic⟩ | ⟨failure, hfailed⟩ :=
      (probed lookup (tick state)).cases_outcome
    · refine ⟨_, select_of_ok hrequested (Prod.ext hok rfl), ?_⟩
      exact {
        unasked := fun h => absurd h hrequested
        found := fun _ other hother => by
          cases hok.symm.trans hother
          exact ⟨Services.from_ofBackend _, rfl⟩
        fallen := fun _ failure hfailed => nomatch hok.symm.trans hfailed
        dynamic := fun _ => ⟨fun _ => ⟨hrequested, resolved, hok⟩, fun _ => hdynamic⟩
        kind := rfl
        requested := rfl
        version := rfl }
    · -- The look-up fails, and the entry points bound in advance stand in for it.
      refine ⟨_, select_of_failed hrequested (Prod.ext hfailed rfl), ?_⟩
      exact {
        unasked := fun h => absurd h hrequested
        found := fun _ resolved hok => nomatch hfailed.symm.trans hok
        fallen := fun _ other hother => by
          cases hfailed.symm.trans hother
          exact ⟨Services.from_ofBackend bound, rfl⟩
        dynamic := fun hbound => ⟨fun hkind => (nomatch hbound.symm.trans hkind),
          fun ⟨_, _, hok⟩ => (nomatch hfailed.symm.trans hok)⟩
        kind := rfl
        requested := rfl
        version := rfl }

end Custody
