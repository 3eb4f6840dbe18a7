import MeridianS3.ObjectStore.Discipline

namespace ObjectStore

namespace Store

variable {κ μ β : Type} [LinearOrder κ] {keys : κ → Prop} {first second third : Store κ μ β}

-- Two stores that hold the same under some keys and give out the same numbers.
structure AlikeOn (keys : κ → Prop) (first second : Store κ μ β) : Prop where
  versioned : second.versioned = first.versioned
  issued : second.issued = first.issued
  opened : second.opened = first.opened
  entries : ∀ key, keys key → second.entries key = first.entries key
  sessions : ∀ upload session, keys session.key →
    (second.sessions upload = some session ↔ first.sessions upload = some session)

namespace AlikeOn

variable (h : AlikeOn keys first second)

theorem refl (store : Store κ μ β) : AlikeOn keys store store :=
  ⟨rfl, rfl, rfl, fun _ _ => rfl, fun _ _ _ => Iff.rfl⟩

include h

theorem symm : AlikeOn keys second first :=
  ⟨h.versioned.symm, h.issued.symm, h.opened.symm, fun key hkey => (h.entries key hkey).symm,
    fun upload session hkey => (h.sessions upload session hkey).symm⟩

theorem head {key : κ} (hkey : keys key) : second.head key = first.head key := by
  rw [Store.head, Store.head, h.entries key hkey]

theorem current {key : κ} (hkey : keys key) : second.current key = first.current key :=
  current_congr (h.entries key hkey)

-- A listing that selects only such keys finds the same.
theorem listed {selects : κ → Bool} (hselects : ∀ key, selects key = true → keys key)
    (startAfter : Option κ) :
    second.listed selects startAfter = first.listed selects startAfter := by
  refine List.Perm.eq_of_pairwise (fun one other _ _ hlt hgt => absurd hlt (asymm hgt))
    (second.listed_sorted selects startAfter) (first.listed_sorted selects startAfter) ?_
  · rw [List.perm_ext_iff_of_nodup ((second.listed_sorted selects startAfter).imp ne_of_lt)
      ((first.listed_sorted selects startAfter).imp ne_of_lt)]
    intro key
    rw [mem_listed, mem_listed]
    constructor
    · rintro ⟨hcurrent, hselected, hstart⟩
      exact ⟨h.current (hselects key hselected) ▸ hcurrent, hselected, hstart⟩
    · rintro ⟨hcurrent, hselected, hstart⟩
      exact ⟨(h.current (hselects key hselected)).symm ▸ hcurrent, hselected, hstart⟩

theorem push {key : κ} (hkey : keys key) (object : Option (Object μ β)) :
    AlikeOn keys (first.push key object) (second.push key object) where
  versioned := h.versioned
  issued := congrArg (· + 1) h.issued
  opened := h.opened
  entries other hother := by
    by_cases hsame : other = key
    · subst hsame
      simp only [Store.push, Function.update_self, h.issued, h.versioned, h.entries other hother]
    · simp only [Store.push, Function.update_of_ne hsame, h.entries other hother]
  sessions := h.sessions

theorem discard {key : κ} (hkey : keys key) (keep : Entry μ β → Bool) :
    AlikeOn keys (first.discard key keep) (second.discard key keep) where
  versioned := h.versioned
  issued := h.issued
  opened := h.opened
  entries other hother := by
    by_cases hsame : other = key
    · subst hsame
      simp only [Store.discard, Function.update_self, h.entries other hother]
    · simp only [Store.discard, Function.update_of_ne hsame, h.entries other hother]
  sessions := h.sessions

theorem put {key : κ} (hkey : keys key) (object : Object μ β) :
    AlikeOn keys (first.put key object) (second.put key object) := h.push hkey _

theorem delete {key : κ} (hkey : keys key) (id : Option Nat) :
    AlikeOn keys (first.delete key id) (second.delete key id) := by
  cases id with
  | some id => exact h.discard hkey _
  | none =>
      unfold Store.delete
      rw [h.versioned]
      dsimp only
      split
      · exact h.push hkey none
      · exact h.discard hkey _

theorem openSession (key : κ) (header : μ) :
    AlikeOn keys (first.openSession key header) (second.openSession key header) where
  versioned := h.versioned
  issued := h.issued
  opened := congrArg (· + 1) h.opened
  entries := h.entries
  sessions upload session hkey := by
    by_cases hsame : upload = first.opened
    · subst hsame
      rw [openSession_session, ← h.opened, openSession_session]
    · rw [openSession_session_of_ne _ _ hsame,
        openSession_session_of_ne _ _ (h.opened.symm ▸ hsame), h.sessions upload session hkey]

-- Sessions that change alike stay alike, as long as they keep their keys.
theorem sessions_map {firstAfter secondAfter : Store κ μ β} {upload : Nat}
    (change : Session κ μ β → Option (Session κ μ β))
    (hchange : ∀ session after, change session = some after → after.key = session.key)
    (hfirst : firstAfter.sessions upload = (first.sessions upload).bind change)
    (hsecond : secondAfter.sessions upload = (second.sessions upload).bind change)
    {session : Session κ μ β} (hkey : keys session.key) :
    secondAfter.sessions upload = some session ↔ firstAfter.sessions upload = some session := by
  rw [hfirst, hsecond, Option.bind_eq_some_iff, Option.bind_eq_some_iff]
  constructor
  · rintro ⟨before, hbefore, hafter⟩
    have hbeforeKey : keys before.key := hchange before session hafter ▸ hkey
    exact ⟨before, (h.sessions upload before hbeforeKey).mp hbefore, hafter⟩
  · rintro ⟨before, hbefore, hafter⟩
    have hbeforeKey : keys before.key := hchange before session hafter ▸ hkey
    exact ⟨before, (h.sessions upload before hbeforeKey).mpr hbefore, hafter⟩

theorem addPart (upload number : Nat) (body : List β) :
    AlikeOn keys (first.addPart upload number body) (second.addPart upload number body) := by
  have hself (store : Store κ μ β) : (store.addPart upload number body).sessions upload =
      (store.sessions upload).bind fun session =>
        some { session with parts := Function.update session.parts number body } := by
    cases hsession : store.sessions upload with
    | none =>
        unfold Store.addPart
        split
        · exact hsession
        · simp_all
    | some session => exact addPart_session store hsession number body
  have hfirst := SameObjects.addPart first upload number body
  have hsecond := SameObjects.addPart second upload number body
  refine ⟨?_, ?_, ?_, ?_, ?_⟩
  · rw [hfirst.versioned, hsecond.versioned, h.versioned]
  · rw [hfirst.issued, hsecond.issued, h.issued]
  · rw [addPart_opened, addPart_opened, h.opened]
  · intro key hkey
    rw [hfirst.entries, hsecond.entries, h.entries key hkey]
  · intro third session hkey
    by_cases hsame : third = upload
    · subst hsame
      refine h.sessions_map _ ?_ (hself first) (hself second) hkey
      rintro before after hafter
      cases hafter
      rfl
    · rw [addPart_session_of_ne _ hsame, addPart_session_of_ne _ hsame, h.sessions third session hkey]

theorem closeSession (upload : Nat) :
    AlikeOn keys (first.closeSession upload) (second.closeSession upload) := by
  have hself (store : Store κ μ β) : (store.closeSession upload).sessions upload = none := by
    unfold Store.closeSession
    split
    · exact Function.update_self ..
    · rename_i hclosed
      exact Classical.byContradiction fun hsome => hclosed (store.session_lt upload hsome)
  have hfirst := SameObjects.closeSession first upload
  have hsecond := SameObjects.closeSession second upload
  refine ⟨?_, ?_, ?_, ?_, ?_⟩
  · rw [hfirst.versioned, hsecond.versioned, h.versioned]
  · rw [hfirst.issued, hsecond.issued, h.issued]
  · rw [closeSession_opened, closeSession_opened, h.opened]
  · intro key hkey
    rw [hfirst.entries, hsecond.entries, h.entries key hkey]
  · intro third session hkey
    by_cases hsame : third = upload
    · subst hsame
      rw [hself, hself]
    · rw [closeSession_session_of_ne _ hsame, closeSession_session_of_ne _ hsame,
        h.sessions third session hkey]

end AlikeOn

-- A store that has moved on away from some keys. Numbers may have been given out.
structure Passed (keys : κ → Prop) (before after : Store κ μ β) : Prop where
  versioned : after.versioned = before.versioned
  issued : before.issued ≤ after.issued
  opened : before.opened ≤ after.opened
  entries : ∀ key, keys key → after.entries key = before.entries key
  sessions : ∀ upload session, keys session.key →
    (after.sessions upload = some session ↔ before.sessions upload = some session)

-- The same store, with some numbers left out.
def skip (store : Store κ μ β) (issued opened : Nat) : Store κ μ β :=
  { store with
    issued := store.issued + issued
    opened := store.opened + opened
    id_lt := fun key entry h => Nat.lt_add_right issued (store.id_lt key entry h)
    session_lt := fun upload h => Nat.lt_add_right opened (store.session_lt upload h) }

-- The changes that do nothing but leave numbers out.
def Skips (change : Store κ μ β → Store κ μ β) : Prop :=
  ∃ issued opened, change = fun store => store.skip issued opened

theorem skips_id : Skips (id : Store κ μ β → Store κ μ β) := ⟨0, 0, rfl⟩

theorem AlikeOn.skipped (h : AlikeOn keys first second) (hpassed : Passed keys second third) :
    AlikeOn keys (first.skip (third.issued - second.issued) (third.opened - second.opened))
      third where
  versioned := hpassed.versioned.trans h.versioned
  issued := by
    have hle := hpassed.issued
    simp only [skip, ← h.issued]
    omega
  opened := by
    have hle := hpassed.opened
    simp only [skip, ← h.opened]
    omega
  entries key hkey := (hpassed.entries key hkey).trans (h.entries key hkey)
  sessions upload session hkey :=
    (hpassed.sessions upload session hkey).trans (h.sessions upload session hkey)

namespace Passed

variable (store : Store κ μ β)

theorem refl : Passed keys store store := ⟨rfl, le_rfl, le_rfl, fun _ _ => rfl, fun _ _ _ => Iff.rfl⟩

theorem trans (h : Passed keys first second) (hnext : Passed keys second third) :
    Passed keys first third where
  versioned := hnext.versioned.trans h.versioned
  issued := h.issued.trans hnext.issued
  opened := h.opened.trans hnext.opened
  entries key hkey := (hnext.entries key hkey).trans (h.entries key hkey)
  sessions upload session hkey :=
    (hnext.sessions upload session hkey).trans (h.sessions upload session hkey)

variable {key : κ} (hkey : ¬keys key)

include hkey

theorem push (object : Option (Object μ β)) : Passed keys store (store.push key object) where
  versioned := rfl
  issued := Nat.le_succ _
  opened := le_rfl
  entries other hother := by
    have hne : other ≠ key := fun hsame => hkey (hsame ▸ hother)
    exact Function.update_of_ne hne _ _
  sessions _ _ _ := Iff.rfl

theorem discard (keep : Entry μ β → Bool) : Passed keys store (store.discard key keep) where
  versioned := rfl
  issued := le_rfl
  opened := le_rfl
  entries other hother := by
    have hne : other ≠ key := fun hsame => hkey (hsame ▸ hother)
    exact Function.update_of_ne hne _ _
  sessions _ _ _ := Iff.rfl

theorem put (object : Object μ β) : Passed keys store (store.put key object) := push store hkey _

theorem delete (id : Option Nat) : Passed keys store (store.delete key id) := by
  cases id with
  | some id => exact discard store hkey _
  | none =>
      unfold Store.delete
      dsimp only
      split
      · exact push store hkey none
      · exact discard store hkey _

theorem openSession (header : μ) : Passed keys store (store.openSession key header) where
  versioned := rfl
  issued := le_rfl
  opened := Nat.le_succ _
  entries _ _ := rfl
  sessions upload session hsession := by
    by_cases hsame : upload = store.opened
    · subst hsame
      rw [openSession_session]
      constructor
      · rintro hopened
        cases hopened
        exact absurd hsession hkey
      · intro hfound
        exact absurd (store.session_lt _ (by simp [hfound])) (Nat.lt_irrefl _)
    · rw [openSession_session_of_ne _ _ hsame]

-- A session of another key changes into one of this key, or is closed.
theorem ofSession {after : Store κ μ β} {upload : Nat} (hsame : SameObjects store after)
    (hopened : after.opened = store.opened)
    (hothers : ∀ other, other ≠ upload → after.sessions other = store.sessions other)
    {found : Session κ μ β} (hfound : store.sessions upload = some found) (hfoundKey : found.key = key)
    (hafter : ∀ session, after.sessions upload = some session → session.key = key) :
    Passed keys store after where
  versioned := hsame.versioned
  issued := hsame.issued.ge
  opened := hopened.ge
  entries other _ := by rw [hsame.entries]
  sessions other session hsession := by
    by_cases hother : other = upload
    · subst hother
      constructor
      · intro h
        exact absurd (hafter session h ▸ hsession) hkey
      · intro h
        obtain rfl := Option.some.inj (hfound.symm.trans h)
        exact absurd (hfoundKey ▸ hsession) hkey
    · rw [hothers other hother]

theorem addPart {upload : Nat} {found : Session κ μ β} (hfound : store.sessions upload = some found)
    (hfoundKey : found.key = key) (number : Nat) (body : List β) :
    Passed keys store (store.addPart upload number body) := by
  apply ofSession store hkey (SameObjects.addPart store upload number body)
    (addPart_opened store upload number body)
    (fun other hother => addPart_session_of_ne store hother number body) hfound hfoundKey
  intro session hsession
  rw [addPart_session store hfound] at hsession
  cases hsession
  exact hfoundKey

theorem closeSession {upload : Nat} {found : Session κ μ β}
    (hfound : store.sessions upload = some found) (hfoundKey : found.key = key) :
    Passed keys store (store.closeSession upload) := by
  apply ofSession store hkey (SameObjects.closeSession store upload)
    (closeSession_opened store upload)
    (fun other hother => closeSession_session_of_ne store hother) hfound hfoundKey
  intro session hsession
  rw [Store.closeSession, dif_pos (store.session_lt upload (by simp [hfound]))] at hsession
  exact absurd (hsession.symm.trans (Function.update_self ..)) (Option.some_ne_none session)

end Passed

end Store

end ObjectStore
