import Mathlib.Data.List.Nodup
import Statechart.Proofs.Json.Distinct

namespace Statechart.Json

-- A member of the base, with what an overlay has for its key merged into it.
def mergedMember (overlay : Members) (member : String × Json) : String × Json :=
  (member.1, ((Table.get? overlay member.1).map member.2.merge).getD member.2)

theorem mergeMembers_eq_map (base overlay : Members) :
    mergeMembers base overlay = base.map (mergedMember overlay) := by
  induction base with
  | nil => rfl
  | cons member rest ih =>
      obtain ⟨key, value⟩ := member
      rw [mergeMembers, ih, List.map_cons, mergedMember]
      cases Table.get? overlay key <;> rfl

theorem mergedMember_cons_of_ne {key : String} {member : String × Json} (h : member.1 ≠ key) (value : Json)
    (rest : Members) : mergedMember ((key, value) :: rest) member = mergedMember rest member := by
  rw [mergedMember, Table.get?_cons, if_neg h, mergedMember]

-- What the members of an object become when those of another are laid over them.
def laidOver (base overlay : Members) : Members :=
  mergeMembers base overlay ++ overlay.filter fun member => !Table.hasKey base member.1

theorem merge_objects (base overlay : Members) :
    (object base).merge (.object overlay) = .object (laidOver base overlay) := by
  rw [merge, laidOver]

theorem merge_of_not_isObject {base : Json} (h : base.isObject = false) (overlay : Json) :
    base.merge overlay = overlay := by
  cases base with
  | object members => simp [isObject] at h
  | _ => simp [merge]

theorem keys_laidOver (base overlay : Members) :
    Table.keys (laidOver base overlay) =
      Table.keys base ++ (Table.keys overlay).filter (· ∉ Table.keys base) := by
  have hfilter : (fun member : String × Json => !Table.hasKey base member.1) =
      (fun key => decide (key ∉ Table.keys base)) ∘ Prod.fst := by
    funext member
    simp [Table.hasKey]
  rw [laidOver, mergeMembers_eq_map, hfilter]
  simp [Table.keys, List.filter_map, Function.comp_def, mergedMember]

theorem nodup_keys_laidOver {base overlay : Members} (hbase : (Table.keys base).Nodup)
    (hoverlay : (Table.keys overlay).Nodup) : (Table.keys (laidOver base overlay)).Nodup := by
  rw [keys_laidOver]
  refine hbase.append (hoverlay.filter _) fun key hkey hnew => ?_
  simpa [hkey] using (List.mem_filter.mp hnew).2

-- A member was in the base, with what the overlay has for its key merged into it, or is new.
theorem mem_laidOver_iff (base overlay : Members) (key : String) (value : Json) :
    (key, value) ∈ laidOver base overlay ↔
      (∃ old, (key, old) ∈ base ∧ value = ((Table.get? overlay key).map old.merge).getD old) ∨
        (key, value) ∈ overlay ∧ key ∉ Table.keys base := by
  rw [laidOver, mergeMembers_eq_map, List.mem_append, List.mem_map, List.mem_filter]
  refine or_congr ⟨?_, ?_⟩ (and_congr_right fun _ => by simp [Table.hasKey])
  · rintro ⟨⟨k, old⟩, hm, heq⟩
    obtain ⟨rfl, rfl⟩ := Prod.mk.inj heq
    exact ⟨old, hm, rfl⟩
  · rintro ⟨old, hm, rfl⟩
    exact ⟨(key, old), hm, rfl⟩

theorem distinctKeys_merge {base overlay : Json} (hbase : base.DistinctKeys) (hoverlay : overlay.DistinctKeys) :
    (base.merge overlay).DistinctKeys := by
  induction base using induction_members generalizing overlay with
  | whole base h => rwa [merge_of_not_isObject h]
  | object base ih =>
      cases overlay with
      | object overlay =>
          obtain ⟨hnodup, hinner⟩ := (distinctKeys_object_iff base).mp hbase
          obtain ⟨hnodup', hinner'⟩ := (distinctKeys_object_iff overlay).mp hoverlay
          rw [merge_objects, distinctKeys_object_iff]
          refine ⟨nodup_keys_laidOver hnodup hnodup', fun (key, value) hm => ?_⟩
          rcases (mem_laidOver_iff base overlay key value).mp hm with ⟨old, hold, rfl⟩ | ⟨hnew, -⟩
          · cases hfound : Table.get? overlay key with
            | none => exact hinner _ hold
            | some new => exact ih _ hold (hinner _ hold) (hoverlay.of_get? hfound)
          · exact hinner' _ hnew
      | _ => exact hoverlay

-- An overlay changes nothing where it has no key of its own, and no value that would change the one there.
theorem laidOver_eq_self {base overlay : Members} (hkeys : ∀ key ∈ Table.keys overlay, key ∈ Table.keys base)
    (hvalues : ∀ key old new, (key, old) ∈ base → Table.get? overlay key = some new → old.merge new = old) :
    laidOver base overlay = base := by
  have hfilter : (overlay.filter fun member => !Table.hasKey base member.1) = [] := by
    rw [List.filter_eq_nil_iff]
    intro member hm
    simpa [Table.hasKey] using hkeys member.1 (List.mem_map_of_mem hm)
  rw [laidOver, hfilter, List.append_nil, mergeMembers_eq_map]
  refine (List.map_congr_left fun member hm => ?_).trans (List.map_id base)
  rw [mergedMember]
  cases hfound : Table.get? overlay member.1 with
  | none => rfl
  | some new => exact congrArg (Prod.mk member.1) (hvalues member.1 member.2 new hm hfound)

theorem merge_self {document : Json} (h : document.DistinctKeys) : document.merge document = document := by
  induction document using induction_members with
  | whole document hwhole => exact merge_of_not_isObject hwhole document
  | object members ih =>
      obtain ⟨hnodup, hinner⟩ := (distinctKeys_object_iff members).mp h
      rw [merge_objects, laidOver_eq_self fun _ hkey => hkey]
      intro key old new hm hfound
      obtain rfl := Table.eq_of_mem_of_get? hnodup hm hfound
      exact ih _ hm (hinner _ hm)

-- What an overlay brought along it finds again. It brings the rest only over what is there already.
theorem merge_merge_self (base : Json) {overlay : Json} (h : overlay.DistinctKeys) :
    (base.merge overlay).merge overlay = base.merge overlay := by
  induction base using induction_members generalizing overlay with
  | whole base hwhole => rw [merge_of_not_isObject hwhole, merge_self h]
  | object base ih =>
      cases overlay with
      | object overlay =>
          obtain ⟨hnodup, hinner⟩ := (distinctKeys_object_iff overlay).mp h
          rw [merge_objects, merge_objects, laidOver_eq_self]
          · intro key hkey
            rw [keys_laidOver, List.mem_append, List.mem_filter]
            by_cases hbase : key ∈ Table.keys base
            · exact .inl hbase
            · exact .inr ⟨hkey, by simpa using hbase⟩
          · intro key value new hm hfound
            rcases (mem_laidOver_iff base overlay key value).mp hm with ⟨old, hold, rfl⟩ | ⟨hnew, -⟩
            · rw [hfound]
              exact ih _ hold (h.of_get? hfound)
            · obtain rfl := Table.eq_of_mem_of_get? hnodup hnew hfound
              exact merge_self (hinner _ hnew)
      | _ => exact merge_self h

-- Where a path leads to something in both documents, it leads to the merge of the two in theirs.
theorem follow_merge {base overlay : Json} {path : List String} {old new : Json} (hold : base.follow path = some old)
    (hnew : overlay.follow path = some new) : (base.merge overlay).follow path = some (old.merge new) := by
  induction path generalizing base overlay with
  | nil =>
      obtain rfl := Option.some.inj hold
      obtain rfl := Option.some.inj hnew
      rfl
  | cons key rest ih =>
      obtain ⟨value, hvalue, hinner⟩ := Option.bind_eq_some_iff.mp hold
      obtain ⟨other, hother, hinner'⟩ := Option.bind_eq_some_iff.mp hnew
      obtain ⟨members, rfl, hmember⟩ := (get?_eq_some_iff base key value).mp hvalue
      obtain ⟨members', rfl, hmember'⟩ := (get?_eq_some_iff overlay key other).mp hother
      rw [follow, get?_merge, hmember, hmember']
      exact ih hinner hinner'

-- One member laid over an object: into what stands with its key, or, where there is nothing, behind all keys.
def layMember (base : Members) (member : String × Json) : Members :=
  Table.put base member.1 (((Table.get? base member.1).map (·.merge member.2)).getD member.2)

theorem nodup_keys_layMember {base : Members} (h : (Table.keys base).Nodup) (member : String × Json) :
    (Table.keys (layMember base member)).Nodup := by
  rw [layMember, Table.keys_put]
  split
  · exact h
  · rename_i hkey
    exact h.append (List.nodup_singleton _) (by simpa [List.disjoint_singleton] using hkey)

theorem laidOver_cons_of_mem {base : Members} (hbase : (Table.keys base).Nodup) {key : String}
    (hkey : key ∈ Table.keys base) {rest : Members} (hrest : key ∉ Table.keys rest) (value : Json) :
    laidOver base ((key, value) :: rest) = laidOver (layMember base (key, value)) rest := by
  obtain ⟨old, hold⟩ := Option.ne_none_iff_exists'.mp fun hnone => (Table.get?_eq_none_iff base key).mp hnone hkey
  have hlay : layMember base (key, value) =
      base.map fun member => if member.1 = key then (key, old.merge value) else member := by
    rw [layMember, hold]
    exact Table.put_of_mem hbase hkey _
  have hmerged : base.map (mergedMember ((key, value) :: rest)) =
      (layMember base (key, value)).map (mergedMember rest) := by
    rw [hlay, List.map_map]
    refine List.map_congr_left fun member hm => ?_
    by_cases hk : member.1 = key
    · have hvalue : member.2 = old := Table.eq_of_mem_of_get? hbase hm (hk ▸ hold)
      simp [mergedMember, Table.get?_cons, hk, hvalue, (Table.get?_eq_none_iff rest key).mpr hrest]
    · simp [mergedMember_cons_of_ne, hk]
  have hkeys : Table.keys (layMember base (key, value)) = Table.keys base := by
    rw [layMember, Table.keys_put, if_pos hkey]
  simp only [laidOver, mergeMembers_eq_map, hmerged, Table.hasKey, hkeys]
  simp [hkey]

theorem laidOver_cons_of_notMem {base : Members} {key : String} (hkey : key ∉ Table.keys base) {rest : Members}
    (hrest : key ∉ Table.keys rest) (value : Json) :
    laidOver base ((key, value) :: rest) = laidOver (layMember base (key, value)) rest := by
  have hlay : layMember base (key, value) = base ++ [(key, value)] := by
    rw [layMember, (Table.get?_eq_none_iff base key).mpr hkey]
    exact Table.put_of_notMem hkey value
  have hmerged : base.map (mergedMember ((key, value) :: rest)) = base.map (mergedMember rest) := by
    refine List.map_congr_left fun member hm => mergedMember_cons_of_ne (fun heq => hkey ?_) value rest
    exact heq ▸ List.mem_map_of_mem hm
  have hnew : mergedMember rest (key, value) = (key, value) := by
    rw [mergedMember, (Table.get?_eq_none_iff rest key).mpr hrest]
    rfl
  have hbehind : (rest.filter fun member => !Table.hasKey (base ++ [(key, value)]) member.1) =
      rest.filter fun member => !Table.hasKey base member.1 := by
    refine List.filter_congr fun member hm => ?_
    have hne : member.1 ≠ key := fun heq => hrest (heq ▸ List.mem_map_of_mem hm)
    simp [Table.hasKey, Table.keys, hne]
  have habsent : Table.hasKey base key = false := by simpa [Table.hasKey] using hkey
  rw [laidOver, laidOver, mergeMembers_eq_map, mergeMembers_eq_map, hlay, hmerged, hbehind]
  simp [hnew, habsent]

-- So an object can be laid over another in one pass, member by member.
theorem merge_eq_foldl {base overlay : Members} (hbase : (Table.keys base).Nodup)
    (hoverlay : (Table.keys overlay).Nodup) :
    (object base).merge (.object overlay) = .object (overlay.foldl layMember base) := by
  rw [merge_objects]
  congr 1
  induction overlay generalizing base with
  | nil => exact laidOver_eq_self (by simp [Table.keys]) (by simp [Table.get?])
  | cons member rest ih =>
      obtain ⟨hfresh, hrest⟩ := List.nodup_cons.mp hoverlay
      rw [List.foldl_cons, ← ih (nodup_keys_layMember hbase member) hrest]
      by_cases hkey : member.1 ∈ Table.keys base
      · exact laidOver_cons_of_mem hbase hkey hfresh member.2
      · exact laidOver_cons_of_notMem hkey hfresh member.2

-- An object with another laid over it: its own keys first and in their order, behind them those that only the
-- other has, and as it was whatever the other does not speak of.
structure Overlaid (base overlay merged : Members) : Prop where
  keys_eq : Table.keys merged = Table.keys base ++ (Table.keys overlay).filter (· ∉ Table.keys base)
  nodup : (Table.keys merged).Nodup
  kept : ∀ key, key ∉ Table.keys overlay → Table.get? merged key = Table.get? base key

theorem overlaid_laidOver {base overlay : Members} (hbase : (Table.keys base).Nodup)
    (hoverlay : (Table.keys overlay).Nodup) : Overlaid base overlay (laidOver base overlay) := by
  refine ⟨keys_laidOver base overlay, nodup_keys_laidOver hbase hoverlay, fun key hkey => ?_⟩
  have hget := get?_merge base overlay key
  rw [merge_objects, get?_object, (Table.get?_eq_none_iff overlay key).mpr hkey] at hget
  rw [hget]
  cases Table.get? base key <;> rfl

-- A document takes an overlay once: a second time changes nothing, nor does laying it over itself. Wherever
-- both have an object, that of the overlay is laid over the other.
theorem merge_idempotent (base overlay : Json) (hbase : base.DistinctKeys) (hoverlay : overlay.DistinctKeys) :
    (base.merge overlay).merge overlay = base.merge overlay ∧ overlay.merge overlay = overlay ∧
      (base.merge overlay).DistinctKeys ∧
      ∀ path old new, base.follow path = some (.object old) → overlay.follow path = some (.object new) →
        ∃ merged, (base.merge overlay).follow path = some (.object merged) ∧ Overlaid old new merged := by
  refine ⟨merge_merge_self base hoverlay, merge_self hoverlay, distinctKeys_merge hbase hoverlay, ?_⟩
  intro path old new hold hnew
  have hnodup := ((distinctKeys_object_iff old).mp (hbase.of_follow hold)).1
  have hnodup' := ((distinctKeys_object_iff new).mp (hoverlay.of_follow hnew)).1
  refine ⟨laidOver old new, ?_, overlaid_laidOver hnodup hnodup'⟩
  rw [follow_merge hold hnew, merge_objects]

-- Two documents that have an object at one key.
def plainHeading : Json :=
  .object [("font", .object [("family", .string "Serif"), ("size", .null)]), ("title", .null)]

def boldHeading : Json :=
  .object [("rule", .bool true), ("font", .object [("weight", .string "bold"), ("family", .string "Sans")])]

theorem merge_idempotent_headings :
    plainHeading.DistinctKeys ∧ boldHeading.DistinctKeys ∧
      (plainHeading.merge boldHeading).merge boldHeading = plainHeading.merge boldHeading ∧
      ∃ merged, (plainHeading.merge boldHeading).follow ["font"] = some (.object merged) ∧
        Table.keys merged = ["family", "size", "weight"] := by
  have hplain : plainHeading.DistinctKeys := by
    simp [plainHeading, DistinctKeys, MembersDistinct, Table.keys]
  have hbold : boldHeading.DistinctKeys := by
    simp [boldHeading, DistinctKeys, MembersDistinct, Table.keys]
  obtain ⟨htwice, -, -, hlevels⟩ := merge_idempotent plainHeading boldHeading hplain hbold
  obtain ⟨merged, hfollow, hoverlaid⟩ := hlevels ["font"] _ _ rfl rfl
  exact ⟨hplain, hbold, htwice, merged, hfollow, hoverlaid.keys_eq.trans (by decide)⟩

end Statechart.Json
