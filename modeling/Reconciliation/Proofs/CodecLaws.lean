import Reconciliation.Codec
import Reconciliation.SortedMap.Lemmas

/-! # Codecs that give back what was written

A codec is faithful if reading what it has written gives the value back. Faithful codecs compose: those of
lists and maps have the codec of the items, and those of structures are put together member by member, in
whatever way each member treats its absence. As absence can be written as `null`, no value may be.
-/

namespace Reconciliation

theorem SortedMap.ofList_entries {κ α : Type} [Ord κ] [Std.LawfulEqOrd κ] [Std.TransOrd κ] (map : SortedMap κ α) :
    SortedMap.ofList map.entries = map := by
  refine SortedMap.ext_get? fun key => ?_
  exact (SortedMap.get?_overriddenBy .empty map key).trans Option.or_none

namespace Codec

variable {α : Type}

/-- What is written is read as the value that it was written for, and is not `null`. -/
structure Faithful (codec : Codec α) : Prop where
  decode_encode : ∀ value, codec.decode? (codec.encode value) = some value
  encode_ne_null : ∀ value, codec.encode value ≠ .null

namespace Faithful

theorem text : Codec.text.Faithful := ⟨fun _ => rfl, fun _ => Json.noConfusion⟩

theorem flag : Codec.flag.Faithful := ⟨fun _ => rfl, fun _ => Json.noConfusion⟩

theorem int32 : Codec.int32.Faithful where
  decode_encode value := by
    have within : Int32.minValue.toInt ≤ value.toInt ∧ value.toInt ≤ Int32.maxValue.toInt :=
      ⟨value.minValue_le_toInt, value.toInt_le⟩
    simp only [Codec.int32, if_pos within, Int32.ofInt_toInt]
  encode_ne_null _ := Json.noConfusion

theorem int64 : Codec.int64.Faithful where
  decode_encode value := by
    have within : Int64.minValue.toInt ≤ value.toInt ∧ value.toInt ≤ Int64.maxValue.toInt :=
      ⟨value.minValue_le_toInt, value.toInt_le⟩
    simp only [Codec.int64, if_pos within, Int64.ofInt_toInt]
  encode_ne_null _ := Json.noConfusion

/-- Items that are written and read one by one are the same afterwards. -/
theorem mapM_map {β γ : Type} {write : α → β} {read? : β → Option γ} {result : α → γ}
    (back : ∀ item, read? (write item) = some (result item)) (items : List α) :
    (items.map write).mapM read? = some (items.map result) := by
  induction items with
  | nil => rfl
  | cons item rest ih =>
    rw [List.map_cons, List.mapM_cons, back, ih]
    rfl

variable {codec : Codec α}

theorem list (faithful : codec.Faithful) : (Codec.list codec).Faithful where
  decode_encode values := (mapM_map faithful.decode_encode values).trans (congrArg some (List.map_id values))
  encode_ne_null _ := Json.noConfusion

theorem map (faithful : codec.Faithful) : (Codec.map codec).Faithful where
  decode_encode entries := by
    have read : (entries.entries.map fun entry => (entry.1, codec.encode entry.2)).mapM
        (fun member => (codec.decode? member.2).map (member.1, ·)) = some entries.entries := by
      refine (@mapM_map _ _ _ _ _ id (fun entry => ?_) _).trans (congrArg some (List.map_id _))
      simp only [faithful.decode_encode, Option.map_some, id]
    change ((entries.entries.map fun entry => (entry.1, codec.encode entry.2)).mapM
      (fun member => (codec.decode? member.2).map (member.1, ·))).bind (fun read => some (SortedMap.ofList read)) = _
    rw [read, Option.bind_some, SortedMap.ofList_entries]
  encode_ne_null _ := Json.noConfusion

theorem stringMap : Codec.stringMap.Faithful := .map .text

end Faithful

end Codec

namespace Record

variable {σ α β : Type}

/-- Members of other names than those of the record are neither written nor looked at. Reading the members that
were written for a value builds what `build` says, as long as no two of them have the same name. -/
structure Faithful (record : Record σ α) (build : σ → α) : Prop where
  named : ∀ value, ∀ member ∈ record.write value, member.1 ∈ record.names
  read : record.names.Nodup → ∀ value members,
    (∀ name ∈ record.names, members name = (record.write value).lookup name) →
      record.read? members = some (build value)

namespace Faithful

variable {record : Record σ (α → β)} {build : σ → α → β} {name : String} {get : σ → α}

theorem of (make : α) : (Record.of σ make).Faithful fun _ => make where
  named _ _ within := absurd within List.not_mem_nil
  read _ _ _ _ := rfl

/-- No member is found under a name that the record does not have. -/
theorem lookup_of_fresh {record : Record σ α} {build : σ → α} (faithful : record.Faithful build)
    (fresh : name ∉ record.names) (value : σ) : (record.write value).lookup name = none := by
  refine List.lookup_eq_none_iff.mpr fun member within => ?_
  have named := faithful.named value member within
  simp only [bne_iff_ne, ne_eq]
  rintro rfl
  exact fresh named

/-- One more member keeps a record faithful if it is read as it was written. -/
theorem member (faithful : record.Faithful build) {write : α → Option Json} {read? : Option Json → Option α}
    {missing? : Option α} (back : ∀ value, read? (write value) = some value) :
    (record.member name get write read? missing?).Faithful fun value => build value (get value) where
  named value member within := by
    rcases List.mem_append.mp within with earlier | this
    · exact List.mem_append_left _ (faithful.named value member earlier)
    · obtain ⟨json, -, rfl⟩ := Option.map_eq_some_iff.mp (Option.mem_toList.mp this)
      exact List.mem_append_right _ (List.mem_singleton.mpr rfl)
  read distinct value members found := by
    obtain ⟨distinctBefore, -, apart⟩ := List.nodup_append.mp distinct
    have fresh : name ∉ record.names := fun within => apart name within name (List.mem_singleton.mpr rfl) rfl
    have own : ((write (get value)).map (name, ·)).toList.lookup name = write (get value) := by
      cases write (get value) <;> simp
    have others (other : String) (different : other ≠ name) :
        ((write (get value)).map (name, ·)).toList.lookup other = none := by
      cases write (get value) <;> simp [different]
    have earlier : record.read? members = some (build value) := by
      refine faithful.read distinctBefore value members fun other within => ?_
      have different : other ≠ name := fun same => fresh (same ▸ within)
      refine (found other (List.mem_append_left _ within)).trans ?_
      rw [Record.member, List.lookup_append, others other different, Option.or_none]
    have this : members name = write (get value) := by
      refine (found name (List.mem_append_right _ (List.mem_singleton.mpr rfl))).trans ?_
      rw [Record.member, List.lookup_append, faithful.lookup_of_fresh fresh, own, Option.none_or]
    simp only [Record.member, earlier, this, back, Option.bind_eq_bind, Option.bind_some, Option.pure_def]

section Modes

variable {codec : Codec α} (item : codec.Faithful)
include item

theorem required (faithful : record.Faithful build) :
    (record.required name get codec).Faithful fun value => build value (get value) :=
  faithful.member item.decode_encode

theorem defaulted [Inhabited α] (faithful : record.Faithful build) :
    (record.defaulted name get codec).Faithful fun value => build value (get value) :=
  faithful.member item.decode_encode

theorem lenient [Inhabited α] (faithful : record.Faithful build) :
    (record.lenient name get codec).Faithful fun value => build value (get value) := by
  refine faithful.member fun value => ?_
  -- what is written is not the `null` that would be read as the default
  have written := item.encode_ne_null value
  simp only [Function.comp_apply, item.decode_encode value]

theorem optional {record : Record σ (Option α → β)} {build : σ → Option α → β} {get : σ → Option α}
    (faithful : record.Faithful build) :
    (record.optional name get codec).Faithful fun value => build value (get value) := by
  refine faithful.member fun value => ?_
  cases value with
  | none => rfl
  | some value =>
    have written := item.encode_ne_null value
    simp only [Option.map_some, item.decode_encode value]

end Modes

variable {record : Record α α} {build : α → α}

/-- The codec of a complete record is faithful if what reading builds of a value is the value. -/
theorem codec (faithful : record.Faithful build) (distinct : record.names.Nodup)
    (whole : ∀ value, build value = value) : record.codec.Faithful where
  decode_encode value := (faithful.read distinct value _ fun _ _ => rfl).trans (congrArg some (whole value))
  encode_ne_null _ := Json.noConfusion

theorem rowCodec (faithful : record.Faithful build) (distinct : record.names.Nodup)
    (whole : ∀ value, build value = value) : record.rowCodec.Faithful where
  decode_encode := (faithful.codec distinct whole).decode_encode
  encode_ne_null _ := Json.noConfusion

end Faithful

end Record

end Reconciliation
