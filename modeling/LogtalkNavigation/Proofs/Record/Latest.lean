import LogtalkNavigation.Record.Artifact
import Mathlib.Data.List.Forall2
import Mathlib.Data.List.Induction
import Mathlib.Data.List.Nodup

/-! One record for each key. Records are put in one after the other, each in the place of the one with its key if there
is one. So the keys that are kept are those that came, in the order in which they first came, and the records that are
kept are those that came last with their key. A list that has each key once is kept as it is; hence it does not matter
whether records are sorted out at once or in parts. -/

namespace LogtalkNavigation.Record

variable {α κ : Type} [DecidableEq κ] (key : α → κ)

theorem putLatest_of_new (record : α) (kept : List α) (fresh : key record ∉ kept.map key) :
    putLatest key record kept = kept ++ [record] := by
  induction kept with
  | nil => rfl
  | cons other rest ih =>
      rw [List.map_cons, List.mem_cons, not_or] at fresh
      rw [putLatest, if_neg (Ne.symm fresh.1), ih fresh.2]
      rfl

theorem keys_putLatest_of_old (record : α) (kept : List α) (known : key record ∈ kept.map key) :
    (putLatest key record kept).map key = kept.map key := by
  induction kept with
  | nil => exact absurd known List.not_mem_nil
  | cons other rest ih =>
      rw [putLatest]
      by_cases same : key other = key record
      · rw [if_pos same, List.map_cons, List.map_cons, same]
      · rw [List.map_cons, List.mem_cons] at known
        have later := known.resolve_left (Ne.symm same)
        rw [if_neg same, List.map_cons, List.map_cons, ih later]

theorem keys_putLatest (record : α) (kept : List α) :
    (putLatest key record kept).map key =
      if key record ∈ kept.map key then kept.map key else kept.map key ++ [key record] := by
  by_cases known : key record ∈ kept.map key
  · rw [if_pos known, keys_putLatest_of_old key record kept known]
  · rw [if_neg known, putLatest_of_new key record kept known, List.map_append]
    rfl

theorem nodup_putLatest (record : α) (kept : List α) (distinct : (kept.map key).Nodup) :
    ((putLatest key record kept).map key).Nodup := by
  rw [keys_putLatest]
  by_cases known : key record ∈ kept.map key
  · rw [if_pos known]
    exact distinct
  · rw [if_neg known, ← List.concat_eq_append]
    exact (List.nodup_concat _ _).mpr ⟨known, distinct⟩

-- Only one record can have to give way, since no two have the same key.
theorem mem_putLatest_iff (record : α) (kept : List α) (distinct : (kept.map key).Nodup) (other : α) :
    other ∈ putLatest key record kept ↔ other = record ∨ (other ∈ kept ∧ key other ≠ key record) := by
  induction kept with
  | nil => simp [putLatest]
  | cons first rest ih =>
      obtain ⟨alone, distinct⟩ := List.nodup_cons.mp distinct
      rw [putLatest]
      by_cases same : key first = key record
      · have others : other ∈ rest → key other ≠ key record := by
          intro inside equal
          exact alone (same.trans equal.symm ▸ List.mem_map_of_mem inside)
        rw [if_pos same]
        simp only [List.mem_cons]
        grind
      · rw [if_neg same]
        simp only [List.mem_cons, ih distinct]
        grind

theorem latest_append (first second : List α) :
    latest key (first ++ second) =
      second.foldl (fun kept record => putLatest key record kept) (latest key first) :=
  List.foldl_append

theorem latest_concat (records : List α) (record : α) :
    latest key (records ++ [record]) = putLatest key record (latest key records) :=
  latest_append key records [record]

theorem nodup_latest (records : List α) : ((latest key records).map key).Nodup := by
  induction records using List.reverseRecOn with
  | nil => exact List.nodup_nil
  | append_singleton records record ih =>
      rw [latest_concat]
      exact nodup_putLatest key record _ ih

theorem eraseDups_concat (keys : List κ) (last : κ) :
    (keys ++ [last]).eraseDups = if last ∈ keys.eraseDups then keys.eraseDups else keys.eraseDups ++ [last] := by
  rw [List.eraseDups_append]
  by_cases known : last ∈ keys
  · simp [List.removeAll, known]
  · simp [List.removeAll, List.eraseDups_cons, known]

theorem keys_latest (records : List α) : (latest key records).map key = (records.map key).eraseDups := by
  induction records using List.reverseRecOn with
  | nil => rfl
  | append_singleton records record ih =>
      rw [latest_concat, keys_putLatest, ih, List.map_append, List.map_singleton, eraseDups_concat]

def IsLast (records : List α) (record : α) : Prop :=
  ∃ before after, records = before ++ record :: after ∧ ∀ other ∈ after, key other ≠ key record

omit [DecidableEq κ] in
theorem isLast_concat_iff (records : List α) (record other : α) :
    IsLast key (records ++ [record]) other ↔
      other = record ∨ (IsLast key records other ∧ key other ≠ key record) := by
  constructor
  · rintro ⟨before, after, divided, none⟩
    induction after using List.reverseRecOn with
    | nil =>
        obtain ⟨_, same⟩ := List.append_inj' divided rfl
        cases same
        exact .inl rfl
    | append_singleton after last _ =>
        rw [← List.cons_append, ← List.append_assoc] at divided
        obtain ⟨rfl, same⟩ := List.append_inj' divided rfl
        cases same
        refine .inr ⟨⟨before, after, rfl, fun later inside => none later ?_⟩, ?_⟩
        · exact List.mem_append_left _ inside
        · exact Ne.symm (none record (List.mem_append_right _ List.mem_cons_self))
  · rintro (rfl | ⟨⟨before, after, rfl, none⟩, apart⟩)
    · exact ⟨records, [], rfl, fun later inside => absurd inside List.not_mem_nil⟩
    · refine ⟨before, after ++ [record], by simp, fun later inside => ?_⟩
      rcases List.mem_append.mp inside with early | last
      · exact none later early
      · rw [List.mem_singleton.mp last]
        exact Ne.symm apart

theorem mem_latest_iff (records : List α) (record : α) :
    record ∈ latest key records ↔ IsLast key records record := by
  induction records using List.reverseRecOn generalizing record with
  | nil =>
      constructor
      · intro inside
        exact absurd inside List.not_mem_nil
      · rintro ⟨before, after, divided, _⟩
        cases before <;> cases divided
  | append_singleton records last ih =>
      rw [latest_concat, mem_putLatest_iff key last _ (nodup_latest key records), ih, isLast_concat_iff]

theorem latest_of_nodup (records : List α) (distinct : (records.map key).Nodup) :
    latest key records = records := by
  induction records using List.reverseRecOn with
  | nil => rfl
  | append_singleton records record ih =>
      rw [List.map_append, List.map_singleton, ← List.concat_eq_append, List.nodup_concat] at distinct
      rw [latest_concat, ih distinct.2, putLatest_of_new key record records distinct.1]

theorem latest_latest (records : List α) : latest key (latest key records) = latest key records :=
  latest_of_nodup key _ (nodup_latest key records)

theorem latest_latest_append (first second : List α) :
    latest key (latest key first ++ second) = latest key (first ++ second) := by
  rw [latest_append, latest_append, latest_latest]

/-- One result for each key of the records, in the order in which the keys first come. Each is made of the last record
with its key. -/
def OnePerKey {β : Type} (made : α → β → Prop) (records : List α) (results : List β) : Prop :=
  List.Forall₂ (fun fact result => ∃ record, IsLast key records record ∧ key record = fact ∧ made record result)
    (records.map key).eraseDups results

theorem forall₂_congr_mem {β : Type} {one other : α → β → Prop} {items : List α}
    (same : ∀ item ∈ items, ∀ result, one item result ↔ other item result) (results : List β) :
    List.Forall₂ one items results ↔ List.Forall₂ other items results := by
  induction items generalizing results with
  | nil => simp
  | cons item rest ih =>
      obtain ⟨first, later⟩ := List.forall_mem_cons.mp same
      simp only [List.forall₂_cons_left_iff, first, ih later]

theorem onePerKey_iff {β : Type} (made : α → β → Prop) (records : List α) (results : List β) :
    OnePerKey key made records results ↔ List.Forall₂ made (latest key records) results := by
  rw [OnePerKey, ← keys_latest, List.forall₂_map_left_iff]
  refine forall₂_congr_mem (fun record kept result => ?_) results
  constructor
  · rintro ⟨other, last, same, shown⟩
    have alike := List.inj_on_of_nodup_map (nodup_latest key records) ((mem_latest_iff key records other).mpr last)
      kept same
    exact alike ▸ shown
  · intro shown
    exact ⟨record, (mem_latest_iff key records record).mp kept, rfl, shown⟩

end LogtalkNavigation.Record
