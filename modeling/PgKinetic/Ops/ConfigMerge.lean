import PgKinetic.Lib.Text

/-!
# The settings that survive a reload

`apply_base_overrides` lays the settings of the process (`base`) over those of the file, where they
differ from the defaults. It goes down where file and base both have a table, and takes the rest of
base **as a whole**: below a table that the file does not have, base wins also where it agrees with
the defaults. This is the only exception to the rule that each path is decided by itself.
-/

namespace PgKinetic

/-- A TOML value, or none; a leaf is a scalar or an array, and a table has entries for its keys. -/
inductive Toml (σ : Type) where
  | absent
  | leaf (a : σ)
  | table (keys : List Text) (entries : Text → Toml σ)

namespace Toml

variable {σ : Type}

/-- `Table::get`, of a value that may be no table. -/
def get : Toml σ → Text → Toml σ
  | table keys entries, k => if k ∈ keys then entries k else absent
  | _, _ => absent

def isTable : Toml σ → Bool
  | table _ _ => true
  | _ => false

/-- What stands there: nothing, a table, or a leaf. -/
def node : Toml σ → Option (Option σ)
  | absent => none
  | leaf a => some a
  | table _ _ => some none

/-- What stands at a path. -/
def look (v : Toml σ) (path : List Text) : Option (Option σ) := (path.foldl get v).node

variable [BEq σ]

/-- `is_default_value`, with `==` of the leaves. -/
def isDefaultValue : (base default : Toml σ) → Bool
  | leaf a, leaf b => a == b
  | table ks t, table ls u =>
    ls.all ks.contains && ks.all fun k => ls.contains k && isDefaultValue (t k) (u k)
  | _, _ => false

/-- `apply_base_overrides`: what it leaves in `target`. The loop visits each key of base once and
touches nothing but the entry under it; to insert base is to apply it where nothing is. -/
def applyBaseOverrides (target base default : Toml σ) : Toml σ :=
  if isDefaultValue base default then target
  else
    match base, target with
    | absent, target => target
    | table keys bases, table targets entries =>
      table (targets ++ keys) fun k =>
        if k ∈ keys then
          applyBaseOverrides (get (table targets entries) k) (bases k) (default.get k)
        else get (table targets entries) k
    | base, _ => base
termination_by structural base

/-- Base differs from the default, and is not merged since one of the two is no table. -/
def replaces (file base default : Toml σ) : Bool :=
  base.node.isSome && !isDefaultValue base default && !(base.isTable && file.isTable)

/-- **Base overrides a path** of the file if it replaces the value there, or one above it. -/
def overrides (file base default : Toml σ) : List Text → Bool
  | [] => replaces file base default
  | k :: path =>
    replaces file base default || overrides (file.get k) (base.get k) (default.get k) path

variable {file base default : Toml σ}

/-- Below a value that is the default, or is not there, is none but such values. -/
theorem default_get (h : base = absent ∨ isDefaultValue base default = true) (k : Text) :
    base.get k = absent ∨ isDefaultValue (base.get k) (default.get k) = true := by
  cases base with
  | absent | leaf a => exact .inl rfl
  | table ks t =>
    cases default with
    | absent | leaf a => simp [isDefaultValue] at h
    | table ls u =>
      have hsame := h.resolve_left nofun
      rw [isDefaultValue, Bool.and_eq_true, List.all_eq_true] at hsame
      by_cases hk : k ∈ ks
      · have hboth := List.all_eq_true.1 hsame.2 k hk
        rw [Bool.and_eq_true, List.contains_iff_mem] at hboth
        rw [get, get, if_pos hk, if_pos hboth.1]
        exact .inr hboth.2
      · exact .inl (if_neg hk)

theorem overrides_of_default (h : base = absent ∨ isDefaultValue base default = true)
    (path : List Text) : overrides file base default path = false := by
  have hhere : ∀ {file base default : Toml σ},
      base = absent ∨ isDefaultValue base default = true → replaces file base default = false := by
    rintro file base default (rfl | h)
    · rfl
    · rw [replaces, h, Bool.not_true, Bool.and_false, Bool.false_and]
  induction path generalizing file base default with
  | nil => exact hhere h
  | cons k path ih => rw [overrides, hhere h, Bool.false_or, ih (default_get h k)]

/-- **One level.** The file is kept, base replaces it, or each key is merged by itself. -/
theorem applyBaseOverrides_cases (file base default : Toml σ) :
    (base = absent ∨ isDefaultValue base default = true) ∧
        file.applyBaseOverrides base default = file ∨
      replaces file base default = true ∧ file.applyBaseOverrides base default = base ∨
      replaces file base default = false ∧
        (file.applyBaseOverrides base default).node = file.node ∧
        ∀ k, (file.applyBaseOverrides base default).get k =
          (file.get k).applyBaseOverrides (base.get k) (default.get k) := by
  rw [applyBaseOverrides.eq_def file base default]
  split
  · next hdefault => exact .inl ⟨.inr hdefault, rfl⟩
  · next hdiffers =>
    split
    · exact .inl ⟨.inl rfl, rfl⟩
    · next keys bases targets entries =>
      refine .inr (.inr ⟨Bool.and_false _, rfl, fun k => ?_⟩)
      by_cases hk : k ∈ keys
      · have hbase : get (table keys bases) k = bases k := if_pos hk
        rw [hbase, get, if_pos (List.mem_append_right targets hk), if_pos hk]
      · have hbase : get (table keys bases) k = absent := if_neg hk
        rw [hbase, applyBaseOverrides.eq_def, if_neg (by simp [isDefaultValue]), get, if_neg hk]
        by_cases htarget : k ∈ targets <;> simp [get, hk, htarget]
    · next hpresent hnot =>
      have hreplaces : replaces file base default = true := by
        rw [replaces, Bool.eq_false_iff.2 hdiffers]
        cases base with
        | absent => exact absurd rfl hpresent
        | leaf a => rfl
        | table keys bases =>
          cases file with
          | absent | leaf a => rfl
          | table targets entries => exact absurd rfl (hnot keys bases targets entries rfl)
      exact .inr (.inl ⟨hreplaces, rfl⟩)

theorem look_applyBaseOverrides (file base default : Toml σ) (path : List Text) :
    look (file.applyBaseOverrides base default) path =
      if overrides file base default path then look base path else look file path := by
  rcases applyBaseOverrides_cases file base default with
    ⟨hkept, happly⟩ | ⟨hreplaces, happly⟩ | ⟨hmerges, hnode, hget⟩
  · rw [happly, overrides_of_default hkept]
    rfl
  · have hoverrides : overrides file base default path = true := by
      cases path <;> rw [overrides, hreplaces]
      exact Bool.true_or _
    rw [happly, hoverrides]
    rfl
  · cases path with
    | nil =>
      rw [overrides, hmerges]
      exact hnode
    | cons k path =>
      rw [overrides, hmerges, Bool.false_or]
      exact (congrArg (look · path) (hget k)).trans (look_applyBaseOverrides _ _ _ path)

/-- **The merge is pointwise.** At every path it has what base has, if base overrides the path, and
what the file has otherwise; a base that is the default leaves the file as it is. -/
theorem merge_pointwise (file base default : Toml σ) :
    (∀ path, look (file.applyBaseOverrides base default) path =
      if overrides file base default path then look base path else look file path) ∧
    (isDefaultValue base default = true → file.applyBaseOverrides base default = file) := by
  refine ⟨look_applyBaseOverrides file base default, fun hdefault => ?_⟩
  rw [applyBaseOverrides.eq_def, if_pos hdefault]

/-- A table that the file does not have: base agrees with the default at `a.x`, where the file has
nothing, and its value is taken all the same. This is about the function on any three trees;
`merge_file_config` itself serialises a whole `Config` into the file's tree, never an empty one. -/
theorem look_missing_table :
    let tree (y : Nat) : Toml Nat :=
      table [['a']] fun _ => table [['x'], ['y']] fun k => leaf (if k = ['x'] then 1 else y)
    look (tree 2) [['a'], ['x']] = look (tree 3) [['a'], ['x']] ∧
      look (table [] fun _ => absent : Toml Nat) [['a'], ['x']] = none ∧
      look (applyBaseOverrides (table [] fun _ => absent) (tree 2) (tree 3)) [['a'], ['x']] =
        some (some 1) := by
  decide

end Toml

end PgKinetic
