import ActualState.Proofs.Service.Standing

/-!
# Lost batches and the certificate

A batch that the store refuses is dropped, and the listener asks the store to revoke its
certificate. That is a write of the whole document like any other: while the disk still refuses,
the revocation fails too, and the certificate stays until it runs out. Once the revocation is on
the disk, the state is not certified until the next successful bump.
-/
namespace ActualState

open Time (Moment Duration)

namespace Service

variable {c c₀ c' : Option FreshnessRecord} {p p' : Pending} {x : Sighting}

/-! ### A flush without a certificate from elsewhere -/

/-- As far as a flush has come that ends with its batch refused, the certificate is what it was at
first, and its write leaves that alone or takes it away. -/
inductive Untouched (c₀ : Option FreshnessRecord) :
    Option FreshnessRecord → Pending → Prop
  | free : Untouched c₀ c₀ none
  | syncing {b : Duration} : Untouched c₀ c₀ (some (.syncing b, c₀))
  | revoking : Untouched c₀ c₀ (some (.revoking, none))
  /-- The batch is in the store. -/
  | bumping {c n : Option FreshnessRecord} : Untouched c₀ c (some (.bumping, n))

/-- A step without a renewal that does not end the flush neither revokes nor bumps. -/
theorem Move.untouched (m : Move c p x c' p') (h : Untouched c₀ c p) (open_ : x.ended = none)
    (alone : x.renewals = []) : x.revoked = false ∧ Untouched c₀ c' p' := by
  cases m with
  | renewed renews =>
    subst alone
    exact ⟨rfl, renews.eq ▸ h⟩
  | began free =>
    subst free
    cases h
    exact ⟨rfl, .syncing⟩
  | beganRevoking free =>
    subst free
    cases h
    exact ⟨rfl, .revoking⟩
  | synced => exact ⟨rfl, .bumping⟩
  | refused waiting _ renews =>
    subst waiting alone
    cases h
    exact ⟨rfl, renews.eq ▸ .revoking⟩
  | overAtOnce => cases open_
  | saved => cases open_
  | dropped => cases open_
  | bumped => cases open_
  | notBumped => cases open_
  | revoked => cases open_
  | notRevoked => cases open_

/-- When the flush ends with its batch refused, the certificate is gone if the revocation was done,
and what it was at first if not. -/
theorem Move.refused_end (m : Move c p x c' p') (h : Untouched c₀ c p) {e : FlushEnd}
    (ended : x.ended = some e) (failed : e.isFailed = true) (alone : x.renewals = []) :
    p' = none ∧ c' = if x.revoked then none else c₀ := by
  cases m with
  | overAtOnce free =>
    subst free
    cases h
    exact ⟨rfl, rfl⟩
  | dropped waiting _ renews =>
    subst waiting alone
    cases h
    exact ⟨rfl, renews.eq⟩
  | revoked waiting renews =>
    subst waiting alone
    cases h
    exact ⟨rfl, renews.eq⟩
  | notRevoked waiting refused renews =>
    subst waiting alone
    cases h
    exact ⟨rfl, by simp [Sighting.revoked, refused, renews.eq]⟩
  | saved _ kept =>
    cases ended
    rw [kept] at failed
    cases failed
  | bumped _ kept =>
    cases ended
    rw [kept] at failed
    cases failed
  | notBumped _ _ kept =>
    cases ended
    rw [kept] at failed
    cases failed
  | renewed => cases ended
  | began => cases ended
  | beganRevoking => cases ended
  | synced => cases ended
  | refused => cases ended

/-- A flush from its beginning to its end, with its batch refused, and whatever else happens in
between. -/
structure FailedFlush (s : Service) (es : List Event) : Prop where
  free : s.listener.flush = none
  begins : ∃ now clock during, es = .begin now clock :: during
  ends : ∃ before last n, s.trace es = before ++ [last] ∧ (∀ x ∈ before, x.ended = none) ∧
    last.ended = some (.finished (.failed n))

/-- The certificate at the end of a flush whose batch is refused. -/
theorem standing_of_refused {s : Service} {es : List Event} {before : List Sighting}
    {last : Sighting} {n : Nat} (standing : Standing s c p) (h : Untouched c₀ c p)
    (seen : s.trace es = before ++ [last]) (open_ : ∀ x ∈ before, x.ended = none)
    (failed : last.ended = some (.finished (.failed n)))
    (alone : ∀ x ∈ s.trace es, x.renewals = []) :
    (∀ x ∈ before, x.revoked = false) ∧
      Standing (s.after es) (if last.revoked then none else c₀) none := by
  induction es generalizing s c p before with
  | nil => simp at seen
  | cons e es ih =>
    obtain ⟨c', p', next, move⟩ := step_moves standing e
    rw [trace_cons] at seen alone
    rw [after_cons]
    generalize s.step e = r at next move seen alone ⊢
    cases before with
    | nil =>
      obtain ⟨rfl, ended⟩ : r.2 = last ∧ r.1.trace es = [] := by simpa using seen
      have done : es = [] := by
        cases es with
        | nil => rfl
        | cons _ _ => simp at ended
      obtain ⟨rfl, rfl⟩ := move.refused_end h failed rfl (alone _ List.mem_cons_self)
      subst done
      exact ⟨List.forall_mem_nil _, next⟩
    | cons y before =>
      obtain ⟨rfl, rest⟩ : r.2 = y ∧ r.1.trace es = before ++ [last] := by simpa using seen
      obtain ⟨unrevoked, still⟩ :=
        move.untouched h (open_ _ List.mem_cons_self) (alone _ List.mem_cons_self)
      obtain ⟨others, standing⟩ := ih next still rest
        (fun x hx => open_ x (List.mem_cons_of_mem _ hx))
        fun x hx => alone x (List.mem_cons_of_mem _ hx)
      exact ⟨List.forall_mem_cons.2 ⟨unrevoked, others⟩, standing⟩

/-! ### Without a certificate -/

/-- There is no certificate, and none on its way but by a bump. -/
def Uncertified (c : Option FreshnessRecord) (p : Pending) : Prop :=
  c = none ∧ ∀ stage n, p = some (stage, n) → stage = .bumping ∨ n = none

theorem Move.uncertified (m : Move c p x c' p') (h : Uncertified c p) (kept : x.bumped = false) :
    Uncertified c' p' := by
  obtain ⟨rfl, written⟩ := h
  have refused : .done ∉ x.renewals := by
    intro done
    simp [Sighting.bumped, done] at kept
  cases m with
  | renewed renews => exact ⟨renews refused, written⟩
  | began => exact ⟨rfl, fun _ _ same => .inr (by cases same; rfl)⟩
  | beganRevoking => exact ⟨rfl, fun _ _ same => .inr (by cases same; rfl)⟩
  | overAtOnce => exact ⟨rfl, nofun⟩
  | synced waiting renews =>
    refine ⟨?_, fun _ _ same => .inl (by cases same; rfl)⟩
    exact (renews refused).trans ((written _ _ waiting).resolve_left nofun)
  | saved waiting _ renews =>
    exact ⟨(renews refused).trans ((written _ _ waiting).resolve_left nofun), nofun⟩
  | refused _ _ renews => exact ⟨renews refused, fun _ _ same => .inr (by cases same; rfl)⟩
  | dropped _ _ renews => exact ⟨renews refused, nofun⟩
  | bumped => simp [Sighting.bumped] at kept
  | notBumped _ _ _ renews => exact ⟨renews refused, nofun⟩
  | revoked waiting renews =>
    exact ⟨(renews refused).trans ((written _ _ waiting).resolve_left nofun), nofun⟩
  | notRevoked _ _ renews => exact ⟨renews refused, nofun⟩

/-- Without a certificate there is none until the next successful bump. -/
theorem freshness_of_uncertified {s : Service} (standing : Standing s c p) (h : Uncertified c p)
    (es : List Event) (kept : ∀ x ∈ s.trace es, x.bumped = false) :
    (s.after es).backend.freshness = none := by
  induction es generalizing s c p with
  | nil =>
    obtain ⟨f, d, backend, certificate⟩ := standing.file
    rw [after_nil, backend, Backend.freshness, FileStore.freshness, certificate, h.1]
  | cons e es ih =>
    obtain ⟨c', p', next, move⟩ := step_moves standing e
    exact ih next (move.uncertified h (kept _ List.mem_cons_self))
      fun x hx => kept x (List.mem_cons_of_mem _ hx)

/-- If a flush ends with its batch refused, its revocation was done and no advertisement asked the
store to bump in between, then the state is not certified, at whatever time one asks, until the
next successful bump. If the revocation was not done, the certificate is what it was. -/
theorem lost_batch_revokes (config : ListenerConfig) (f : FileStore) (d : Disk)
    (tracker : Option UsageTracker) (earlier flush : List Event)
    (failed : FailedFlush ((start config f d tracker).after earlier) flush)
    (alone : ∀ x ∈ ((start config f d tracker).after earlier).trace flush, x.renewals = []) :
    let s := (start config f d tracker).after earlier
    let t := s.after flush
    ((∃ x ∈ s.trace flush, x.revoked = true) →
      ∀ later, (∀ x ∈ t.trace later, x.bumped = false) →
        ∀ now, (t.after later).backend.isFresh now = false) ∧
    ((∀ x ∈ s.trace flush, x.revoked = false) → t.backend.freshness = s.backend.freshness) := by
  intro s t
  obtain ⟨c, p, standing⟩ := (standing_start config f d tracker).after earlier
  obtain ⟨before, last, n, seen, open_, refused⟩ := failed.ends
  have idle : p = none := by
    cases standing with
    | free => rfl
    | waiting _ _ busy => exact absurd (busy.symm.trans failed.free) nofun
  subst idle
  obtain ⟨others, after⟩ := standing_of_refused standing .free seen open_ refused alone
  have sawLast : last ∈ s.trace flush := by
    rw [seen]
    exact List.mem_append_right _ List.mem_cons_self
  constructor
  · rintro ⟨x, hx, revoked⟩ later kept now
    have atEnd : last.revoked = true := by
      rw [seen] at hx
      rcases List.mem_append.1 hx with hx | hx
      · rw [others x hx] at revoked
        cases revoked
      · rwa [List.mem_singleton.1 hx] at revoked
    rw [atEnd] at after
    rw [Backend.isFresh, freshness_of_uncertified after ⟨rfl, nofun⟩ later kept]
    rfl
  · intro unrevoked
    rw [unrevoked last sawLast] at after
    obtain ⟨f', d', backend', certificate'⟩ := after.file
    obtain ⟨f, d, backend, certificate⟩ := standing.file
    show t.backend.freshness = s.backend.freshness
    rw [backend', backend]
    exact certificate'.trans certificate.symm

/-- A first batch is saved and certified, then a directory is put in the place of the file, and one
more heartbeat comes in. -/
def blockedDisk : List Event :=
  let payload := Text.Utf8.ofString "\x7b\"dea\":\"a\"\x7d"
  let now : Option Moment := some ⟨1000, 0⟩
  [.heartbeat payload now, .begin now 0, .complete now 0, .complete now 0,
    .disk { target := .directory }, .heartbeat payload now]

/-- A store before its first batch. -/
def emptyStore : FileStore := ⟨30 * Time.second, 10 * Time.second, .empty, {}⟩

/-- The disk is back when the revocation is written. -/
theorem lost_batch_revokes_disk_back :
    let s := (start {} emptyStore {} none).after blockedDisk
    let now : Option Moment := some ⟨1000, 0⟩
    let flush : List Event := [.begin now 0, .complete now 0, .disk {}, .complete now 0]
    FailedFlush s flush ∧ (∀ x ∈ s.trace flush, x.renewals = []) ∧
      (∃ x ∈ s.trace flush, x.revoked = true) ∧ s.backend.isFresh ⟨1000, 0⟩ = true ∧
      (s.after flush).backend.isFresh ⟨1000, 0⟩ = false := by
  intro s now flush
  have failed : FailedFlush s flush :=
    ⟨by decide +kernel, ⟨now, 0, _, rfl⟩,
      [{}, { answered := some (.syncing 0, .failed .io) }, {}],
      { ended := some (.finished (.failed 1)), answered := some (.revoking, .done) }, 1,
      by decide +kernel, by decide, rfl⟩
  have alone : ∀ x ∈ s.trace flush, x.renewals = [] := by decide +kernel
  have revoked : ∃ x ∈ s.trace flush, x.revoked = true := by decide +kernel
  have gone :=
    (lost_batch_revokes {} emptyStore {} none blockedDisk flush failed alone).1 revoked []
      (List.forall_mem_nil _) ⟨1000, 0⟩
  rw [after_nil] at gone
  exact ⟨failed, alone, revoked, by decide +kernel, gone⟩

/-- The disk is still gone when the revocation is written: the batch is lost, and what is left of
the state is certified. -/
theorem lost_batch_may_stay_certified :
    let s := (start {} emptyStore {} none).after blockedDisk
    let now : Option Moment := some ⟨1000, 0⟩
    let flush : List Event := [.begin now 0, .complete now 0, .complete now 0]
    FailedFlush s flush ∧ (∀ x ∈ s.trace flush, x.renewals = []) ∧
      (s.after flush).backend.isFresh ⟨1000, 0⟩ = true := by
  intro s now flush
  have failed : FailedFlush s flush :=
    ⟨by decide +kernel, ⟨now, 0, _, rfl⟩,
      [{}, { answered := some (.syncing 0, .failed .io) }],
      { ended := some (.finished (.failed 1)), answered := some (.revoking, .failed .io) }, 1,
      by decide +kernel, by decide, rfl⟩
  exact ⟨failed, by decide +kernel, by decide +kernel⟩

end Service

end ActualState
