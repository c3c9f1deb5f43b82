import Alerting.Trigger.Selector

/-!
# Reading what was written

A value *decodes back* when its document is read as that value, however strictly it is read.  Not
every value does: an infinite number has no document of its own.  So there are two laws for a type
with a document form:

* `LawfulCoded` : all its values decode back;
* `StableCoded` : those of its values decode back that were read from a document, whatever way that
  document was written in.

Containers have either law if what they hold has it.  The lemmas on `Members` find the members of a
written object again, so that the law of a record follows from those of its members by `simp`.

* `BucketSelector.decodesBack` : every bucket selector decodes back, whatever its paths, its script
  and its patterns are.
* `BucketSelector.parse_pretty` : as text it is read as itself, if its text is read as its document.
-/

namespace Alerting

/-- The document of a value is read as that value. -/
def DecodesBack {α : Type} [Coded α] (a : α) : Prop :=
  ∀ rigour, decodeWith? α rigour (encode a) = some a

@[simp] theorem decodeWith?_encode {α : Type} [Coded α] {a : α} {rigour : Rigour}
    (h : DecodesBack a) : decodeWith? α rigour (encode a) = some a := h rigour

/-- Every value of a type decodes back. -/
class LawfulCoded (α : Type) [Coded α] : Prop where
  decodesBack : ∀ a : α, DecodesBack a

attribute [simp] LawfulCoded.decodesBack

/-- Every value of a type that is read decodes back. -/
class StableCoded (α : Type) [Coded α] : Prop where
  decodesBack_of_decode : ∀ {rigour : Rigour} {j : Json} {a : α},
    decodeWith? α rigour j = some a → DecodesBack a

/-- Null is read as no value of a type. -/
class NonNull (α : Type) [Coded α] : Prop where
  decode_null : ∀ rigour, decodeWith? α rigour .null = none

export StableCoded (decodesBack_of_decode)

instance {α : Type} [Coded α] [LawfulCoded α] : StableCoded α where
  decodesBack_of_decode _ := LawfulCoded.decodesBack _

/-- Reading what is written of a value that was read, and writing it again, changes nothing. -/
theorem decode_encode_idem {α : Type} [Coded α] [StableCoded α] {rigour rigour' : Rigour}
    {j k : Json} (h : (decodeWith? α rigour j).map encode = some k) :
    (decodeWith? α rigour' k).map encode = some k := by
  obtain ⟨a, ha, rfl⟩ := Option.map_eq_some_iff.1 h
  rw [decodesBack_of_decode ha rigour', Option.map_some]

/-! ### Plain values -/

theorem decodesBack_str (s : String) : DecodesBack s := fun _ => rfl

theorem decodesBack_value (v : Value) : DecodesBack v := fun _ => congrArg some v.ofJson_json

theorem decodeNat?_nat {bound : Nat} {n : UInt64} (h : n.toNat < bound) :
    decodeNat? bound (.nat n) = some n.toNat := by
  simp only [decodeNat?, Json.nat, Json.Number.ofUInt64, h, ↓reduceIte]

instance : LawfulCoded Bool := ⟨fun _ _ => rfl⟩

instance : LawfulCoded String := ⟨decodesBack_str⟩

instance : LawfulCoded Value := ⟨decodesBack_value⟩

instance : LawfulCoded UInt8 where
  decodesBack n _ := by
    show (decodeNat? UInt8.size (.nat n.toUInt64)).map UInt8.ofNat = some n
    rw [decodeNat?_nat (by simpa using n.toNat_lt), UInt8.toNat_toUInt64, Option.map_some,
      UInt8.ofNat_toNat]

instance : LawfulCoded UInt32 where
  decodesBack n _ := by
    show (decodeNat? UInt32.size (.nat n.toUInt64)).map UInt32.ofNat = some n
    rw [decodeNat?_nat (by simpa using n.toNat_lt), UInt32.toNat_toUInt64, Option.map_some,
      UInt32.ofNat_toNat]

theorem decodesBack_of_isFinite {x : Binary64} (h : x.isFinite = true) : DecodesBack x := by
  cases x with
  | finite _ => exact fun _ => rfl
  | nan | infinite => cases h

/-- A number of a document is finite. -/
instance : StableCoded Binary64 where
  decodesBack_of_decode {_ j _} h := by
    cases j with
    | num n =>
      obtain ⟨_, -, rfl⟩ := Option.map_eq_some_iff.1 h
      exact decodesBack_of_isFinite rfl
    | null | bool | str | arr | obj => cases h

instance : NonNull String := ⟨fun _ => rfl⟩

instance : NonNull Binary64 := ⟨fun _ => rfl⟩

/-- The name of a value is read as that value. -/
class LawfulNamed (α : Type) [Named α] : Prop where
  ofName?_nameOf : ∀ a : α, ofName? α (nameOf a) = some a

instance {α : Type} [Named α] [LawfulNamed α] : LawfulCoded α where
  decodesBack a _ := LawfulNamed.ofName?_nameOf a

instance {α : Type} [Named α] : NonNull α := ⟨fun _ => rfl⟩

/-! ### Containers -/

section Containers

variable {α : Type} [Coded α]

theorem DecodesBack.encode_ne_null [NonNull α] {a : α} (h : DecodesBack a) : encode a ≠ .null := by
  intro hnull
  have hnone := NonNull.decode_null (α := α) .strict
  rw [← hnull, h .strict] at hnone
  cases hnone

theorem decodesBack_none : DecodesBack (none : Option α) := fun _ => rfl

theorem decodesBack_some [NonNull α] {a : α} (h : DecodesBack a) : DecodesBack (some a) := by
  intro rigour
  have hdecode : decodeWith? (Option α) rigour (encode a) =
      (decodeWith? α rigour (encode a)).map some := by
    cases hj : encode a with
    | null => exact absurd hj h.encode_ne_null
    | _ => rfl
  show decodeWith? (Option α) rigour (encode a) = _
  rw [hdecode, h rigour]
  rfl

theorem decodesBack_option [NonNull α] {o : Option α} (h : ∀ a ∈ o, DecodesBack a) :
    DecodesBack o := by
  cases o with
  | none => exact decodesBack_none
  | some a => exact decodesBack_some (h a rfl)

theorem decodesBack_ite [NonNull α] {a : α} {p : Prop} [Decidable p] (h : DecodesBack a) :
    DecodesBack (if p then some a else none) := by
  split
  · exact decodesBack_some h
  · exact decodesBack_none

theorem decodesBack_list {xs : List α} (h : ∀ a ∈ xs, DecodesBack a) : DecodesBack xs := by
  intro rigour
  show (xs.map encode).mapM (decodeWith? α rigour) = some xs
  induction xs with
  | nil => rfl
  | cons x xs ih =>
    rw [List.forall_mem_cons] at h
    rw [List.map_cons, List.mapM_cons, h.1 rigour, ih h.2]
    rfl

theorem decodeMembers?_encode {es : List (String × α)} (h : ∀ e ∈ es, DecodesBack e.2)
    (rigour : Rigour) :
    decodeMembers? α rigour (es.map fun (k, v) => (k, encode v)) = some es := by
  induction es with
  | nil => rfl
  | cons e es ih =>
    have he := h e (by simp) rigour
    have hes := ih fun e he => h e (by simp [he])
    simp only [List.map_cons, decodeMembers?, he, hes]
    rfl

theorem decodesBack_map {m : SortedMap α} (h : ∀ e ∈ m.entries, DecodesBack e.2) :
    DecodesBack m := by
  intro rigour
  show (decodeMembers? α rigour _).map SortedMap.ofList = _
  rw [decodeMembers?_encode h rigour, Option.map_some, SortedMap.ofList_entries]

theorem decodesBack_nil : DecodesBack ([] : List α) := fun _ => rfl

theorem decodesBack_empty : DecodesBack (.empty : SortedMap α) := fun _ => rfl

/-- The items of a list that is read are read. -/
theorem exists_decode_of_mapM {rigour : Rigour} {js : List Json} {xs : List α}
    (h : js.mapM (decodeWith? α rigour) = some xs) :
    ∀ a ∈ xs, ∃ j, decodeWith? α rigour j = some a := by
  induction js generalizing xs with
  | nil =>
    cases h
    nofun
  | cons j js ih =>
    simp only [List.mapM_cons, Option.bind_eq_bind, Option.bind_eq_some_iff, Option.pure_def,
      Option.some.injEq] at h
    obtain ⟨x, hx, xs, hxs, rfl⟩ := h
    exact List.forall_mem_cons.2 ⟨⟨j, hx⟩, ih hxs⟩

/-- So are the values of a map. -/
theorem exists_decode_of_decodeMembers? {rigour : Rigour} {ms : List (String × Json)}
    {es : List (String × α)} (h : decodeMembers? α rigour ms = some es) :
    ∀ e ∈ es, ∃ j, decodeWith? α rigour j = some e.2 := by
  induction ms generalizing es with
  | nil =>
    cases h
    nofun
  | cons m ms ih =>
    simp only [decodeMembers?, Option.bind_eq_bind, Option.bind_eq_some_iff, Option.pure_def,
      Option.some.injEq] at h
    obtain ⟨a, ha, es, hes, rfl⟩ := h
    exact List.forall_mem_cons.2 ⟨⟨m.2, ha⟩, ih hes⟩

instance [LawfulCoded α] : LawfulCoded (List α) := ⟨fun _ => decodesBack_list fun _ _ => by simp⟩

instance [LawfulCoded α] : LawfulCoded (SortedMap α) :=
  ⟨fun _ => decodesBack_map fun _ _ => by simp⟩

instance [LawfulCoded α] [NonNull α] : LawfulCoded (Option α) :=
  ⟨fun _ => decodesBack_option fun _ _ => by simp⟩

instance : NonNull (List α) := ⟨fun _ => rfl⟩

instance : NonNull (SortedMap α) := ⟨fun _ => rfl⟩

variable [StableCoded α]

instance : StableCoded (List α) where
  decodesBack_of_decode {rigour j xs} h := by
    cases j with
    | arr js =>
      refine decodesBack_list fun a ha => ?_
      obtain ⟨_, hj⟩ := exists_decode_of_mapM h a ha
      exact decodesBack_of_decode hj
    | null | bool | num | str | obj => cases h

instance : StableCoded (SortedMap α) where
  decodesBack_of_decode {rigour j m} h := by
    cases j with
    | obj ms =>
      obtain ⟨es, hes, rfl⟩ := Option.map_eq_some_iff.1 h
      refine decodesBack_map fun e he => ?_
      obtain ⟨_, hj⟩ := exists_decode_of_decodeMembers? hes e (SortedMap.mem_of_mem_ofList he)
      exact decodesBack_of_decode hj
    | null | bool | num | str | arr => cases h

instance [NonNull α] : StableCoded (Option α) where
  decodesBack_of_decode {rigour j o} h := by
    refine decodesBack_option fun a ha => ?_
    obtain rfl := Option.mem_def.1 ha
    cases j with
    | null => cases h
    | bool | num | str | arr | obj =>
      obtain ⟨_, hb, ⟨⟩⟩ := Option.map_eq_some_iff.1 h
      exact decodesBack_of_decode hb

end Containers

/-! ### Members of records -/

namespace Members

section Written

variable {rigour : Rigour} {names : List String} {ms : List (String × Json)}

/-- Known members with distinct names are found as they are. -/
theorem ofObject?_obj (hn : (ms.map Prod.fst).Nodup) (hs : ∀ m ∈ ms, m.1 ∈ names) :
    ofObject? rigour names (.obj ms) = some ⟨ms, false, rigour⟩ := by
  have hknown : ms.filter (fun m => names.contains m.1) = ms :=
    List.filter_eq_self.2 fun m hm => List.contains_iff_mem.2 (hs m hm)
  simp only [ofObject?, hknown, hn, ↓reduceIte]

theorem ofRecord?_obj (hn : (ms.map Prod.fst).Nodup) (hs : ∀ m ∈ ms, m.1 ∈ names) :
    ofRecord? rigour names (.obj ms) = some ⟨ms, false, rigour⟩ :=
  ofObject?_obj hn hs

variable {name k : String} {α : Type} [Coded α]

@[simp] theorem get?_nil : get? ⟨[], false, rigour⟩ name = none := rfl

@[simp] theorem get?_cons (j : Json) :
    get? ⟨(k, j) :: ms, false, rigour⟩ name =
      if name = k then some j else get? ⟨ms, false, rigour⟩ name :=
  SortedMap.lookup_cons_eq k name j ms

@[simp] theorem get?_optionalMember_append (o : Option α) :
    get? ⟨optionalMember k o ++ ms, false, rigour⟩ name =
      if name = k then (o.map encode).or (get? ⟨ms, false, rigour⟩ name)
      else get? ⟨ms, false, rigour⟩ name := by
  cases o with
  | none => simp [optionalMember]
  | some a =>
    rw [optionalMember, List.singleton_append, get?_cons]
    split <;> rfl

@[simp] theorem get?_optionalMember (o : Option α) :
    get? ⟨optionalMember k o, false, rigour⟩ name = if name = k then o.map encode else none := by
  cases o with
  | none => simp [optionalMember]
  | some a => simp [optionalMember]

@[simp] theorem lenient_mk : lenient ⟨ms, false, rigour⟩ = ⟨ms, false, .lenient⟩ := rfl

end Written

section Read

variable {α : Type} [Coded α] {m : Members} {name : String} {a b : α} {o : Option α}

/-! A member is what its document is read as. -/

@[simp] theorem required_eq :
    m.required name = (m.get? name).bind (decodeWith? α m.rigour) := rfl

@[simp] theorem withDefault_eq :
    m.withDefault name b = (m.get? name).elim (some b) (decodeWith? α m.rigour) := by
  unfold withDefault
  cases m.get? name <;> rfl

@[simp] theorem optional_eq :
    m.optional name = (m.get? name).elim (some none) (decodeWith? (Option α) m.rigour) :=
  withDefault_eq

/-- A member that was left out stands for none. -/
@[simp] theorem elim_encode {rigour : Rigour} (h : DecodesBack o) :
    o.elim (some none) (decodeWith? (Option α) rigour ∘ encode) = some o := by
  cases o with
  | none => rfl
  | some a => exact h rigour

/-! So a member that is read decodes back. -/

variable [StableCoded α]

theorem decodesBack_of_required (h : m.required name = some a) : DecodesBack a := by
  obtain ⟨_, -, hj⟩ := Option.bind_eq_some_iff.1 h
  exact decodesBack_of_decode hj

theorem decodesBack_of_withDefault (h : m.withDefault name b = some a) (hb : DecodesBack b) :
    DecodesBack a := by
  unfold withDefault at h
  split at h
  · exact decodesBack_of_decode h
  · cases h
    exact hb

theorem decodesBack_of_optional [NonNull α] (h : m.optional name = some o) : DecodesBack o :=
  decodesBack_of_withDefault h decodesBack_none

end Read

end Members

/-- A record decodes back if it is read from the members that it is written with. -/
theorem decodesBack_record {α : Type} [Coded α] {a : α} {names : List String}
    {ms : List (String × Json)} {read : Members → Option α} (hencode : encode a = .obj ms)
    (hdecode : ∀ rigour ms, decodeWith? α rigour (.obj ms) =
      (Members.ofObject? rigour names (.obj ms)).bind read)
    (hn : (ms.map Prod.fst).Nodup) (hs : ∀ m ∈ ms, m.1 ∈ names)
    (hread : ∀ rigour, read ⟨ms, false, rigour⟩ = some a) : DecodesBack a := by
  intro rigour
  rw [hencode, hdecode, Members.ofObject?_obj hn hs]
  exact hread rigour

/-! ### Scripts and selectors -/

instance : LawfulCoded Script where
  decodesBack s := by
    refine decodesBack_record rfl (fun _ _ => rfl) ?_ ?_ fun rigour => ?_
    · simp
    · simp [Script.names]
    · simp

namespace BucketSelector

theorem decodesBack (s : BucketSelector) : DecodesBack s := by
  refine decodesBack_record rfl (fun _ _ => rfl) ?_ ?_ fun rigour => ?_
  · cases s.filter <;> simp [optionalMember]
  · cases s.filter <;> simp [optionalMember, names]
  · simp

/-- A selector shown as text is read as that selector, if the text is read as its document. -/
theorem parse_pretty {s : BucketSelector} (h : Json.parse? (encode s).pretty = some (encode s)) :
    parse (encode s).pretty = .ok s := by
  rw [parse_of_document h, decode?, s.decodesBack]

end BucketSelector

end Alerting
