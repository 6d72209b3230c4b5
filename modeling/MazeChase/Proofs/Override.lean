import MazeChase.Config.Toml
import MazeChase.Proofs.Fields

/-!
# Lines override defaults

A configuration is read from plain lines by starting with the defaults and putting the value of each
line into the field that the line names. What comes out does not depend on the order of the lines,
since no field is named twice.

* `Config.Put`, `Config.put?_eq_some_iff`: what one line does;
* `Config.foldlM_put?_eq_some_iff`: what lines for different fields do;
* **`Config.lines_override_defaults`**.
-/

set_option autoImplicit false

namespace MazeChase.Config

open Toml (Plain)

/-! ## One value -/

section

variable {v : Plain}

theorem integer?_eq_some_iff {n : Int} {s : Setting} :
    Toml.integer? n = some s ↔ (-2 ^ 63 ≤ n ∧ n < 2 ^ 63) ∧ .integer n = s := by
  have low : Int64.minValue.toInt = -2 ^ 63 := rfl
  have high : Int64.maxValue.toInt = 2 ^ 63 - 1 := rfl
  rw [Toml.integer?, low, high, Option.ite_none_right_eq_some, Option.some.injEq]
  exact and_congr_left fun _ => by omega

theorem setting?_eq_list {s : Setting} {a b : Int} (read : (Plain.pair a b).setting? = some s) :
    Toml.integer? a = some (.integer a) ∧ Toml.integer? b = some (.integer b) ∧
      s = .list [.integer a, .integer b] := by
  rw [Plain.setting?] at read
  split at read
  next x y hx hy =>
    obtain ⟨_, rfl⟩ := integer?_eq_some_iff.mp hx
    obtain ⟨_, rfl⟩ := integer?_eq_some_iff.mp hy
    exact ⟨hx, hy, (Option.some.inj read).symm⟩
  next => exact absurd read (by simp)

theorem bind_natBelow? {limit m : Nat} : v.setting?.bind (Setting.natBelow? limit) = some m ↔
    v = .integer m ∧ m < limit ∧ m < 2 ^ 63 := by
  rw [Option.bind_eq_some_iff]
  cases v with
  | integer n =>
    simp only [Plain.setting?, integer?_eq_some_iff, Plain.integer.injEq]
    constructor
    · rintro ⟨_, ⟨range, rfl⟩, read⟩
      rw [Setting.natBelow?] at read
      split at read
      · have := Option.some.inj read
        omega
      · exact absurd read (by simp)
    · rintro ⟨rfl, below, range⟩
      refine ⟨_, ⟨by omega, rfl⟩, ?_⟩
      rw [Setting.natBelow?, if_pos (by omega), Int.toNat_natCast]
  | pair a b =>
    refine iff_of_false ?_ (by simp)
    rintro ⟨s, read, below⟩
    obtain ⟨_, _, rfl⟩ := setting?_eq_list read
    exact absurd below (by simp [Setting.natBelow?])
  | text s => simp [Plain.setting?, Setting.natBelow?]

theorem bind_word {α : Type} {limit : Nat} {ofNat : Nat → α} {toNat : α → Nat}
    (ofNat_toNat : ∀ w, ofNat (toNat w) = w) (toNat_ofNat : ∀ m < limit, toNat (ofNat m) = m)
    (toNat_lt : ∀ w, toNat w < limit) {w : α} :
    (v.setting?.bind fun s => (s.natBelow? limit).map ofNat) = some w ↔
      v = .integer (toNat w) ∧ toNat w < 2 ^ 63 := by
  have read : (v.setting?.bind fun s => (s.natBelow? limit).map ofNat) =
    (v.setting?.bind (Setting.natBelow? limit)).map ofNat := Option.map_bind.symm
  rw [read, Option.map_eq_some_iff]
  simp only [bind_natBelow?]
  constructor
  · rintro ⟨m, ⟨rfl, below, range⟩, rfl⟩
    rw [toNat_ofNat m below]
    exact ⟨rfl, range⟩
  · rintro ⟨rfl, range⟩
    exact ⟨toNat w, ⟨rfl, toNat_lt w, range⟩, ofNat_toNat w⟩

theorem bind_uint32? {n : UInt32} :
    v.setting?.bind Setting.uint32? = some n ↔ v = .integer n.toNat := by
  have lt := n.toNat_lt
  refine (bind_word (fun _ => UInt32.ofNat_toNat) (fun _ => UInt32.toNat_ofNat_of_lt')
    UInt32.toNat_lt).trans (and_iff_left (by omega))

theorem bind_uint8? {n : UInt8} :
    v.setting?.bind Setting.uint8? = some n ↔ v = .integer n.toNat := by
  have lt := n.toNat_lt
  refine (bind_word (fun _ => UInt8.ofNat_toNat) (fun _ => UInt8.toNat_ofNat_of_lt')
    UInt8.toNat_lt).trans (and_iff_left (by omega))

theorem bind_uint16? {n : UInt16} :
    v.setting?.bind Setting.uint16? = some n ↔ v = .integer n.toNat := by
  have lt := n.toNat_lt
  refine (bind_word (fun _ => UInt16.ofNat_toNat) (fun _ => UInt16.toNat_ofNat_of_lt')
    UInt16.toNat_lt).trans (and_iff_left (by omega))

theorem bind_uint64? {n : UInt64} : v.setting?.bind Setting.uint64? = some n ↔
    v = .integer n.toNat ∧ n.toNat < 2 ^ 63 :=
  bind_word (fun _ => UInt64.ofNat_toNat) (fun _ => UInt64.toNat_ofNat_of_lt') UInt64.toNat_lt

theorem bind_pair? {p : UInt16 × UInt16} : v.setting?.bind (Setting.pair? Toml.dialect) = some p ↔
    v = .pair p.1.toNat p.2.toNat := by
  constructor
  · intro read
    obtain ⟨s, setting, items⟩ := Option.bind_eq_some_iff.mp read
    cases v with
    | integer n =>
      obtain ⟨_, rfl⟩ := integer?_eq_some_iff.mp setting
      exact absurd items (by simp [Setting.pair?])
    | text t =>
      obtain rfl := Option.some.inj setting
      exact absurd items (by simp [Setting.pair?])
    | pair a b =>
      obtain ⟨ha, hb, rfl⟩ := setting?_eq_list setting
      simp only [Setting.pair?, List.isEmpty_nil, Bool.true_or, if_true] at items
      split at items
      next x y hx hy =>
        have first : Plain.integer a = .integer x.toNat :=
          bind_uint16?.mp (Option.bind_eq_some_iff.mpr ⟨_, ha, hx⟩)
        have second : Plain.integer b = .integer y.toNat :=
          bind_uint16?.mp (Option.bind_eq_some_iff.mpr ⟨_, hb, hy⟩)
        obtain rfl := Option.some.inj items
        rw [Plain.integer.inj first, Plain.integer.inj second]
      next => exact absurd items (by simp)
  · rintro rfl
    obtain ⟨x, y⟩ := p
    obtain ⟨_, hx, readx⟩ :=
      Option.bind_eq_some_iff.mp (bind_uint16?.mpr (rfl : _ = Plain.integer x.toNat))
    obtain ⟨_, hy, ready⟩ :=
      Option.bind_eq_some_iff.mp (bind_uint16?.mpr (rfl : _ = Plain.integer y.toNat))
    have hx : Toml.integer? x.toNat = some _ := hx
    have hy : Toml.integer? y.toNat = some _ := hy
    simp [Plain.setting?, Setting.pair?, hx, hy, readx, ready]

theorem bind_choice? {p : Planning} :
    (v.setting?.bind fun s => (s.choice? Toml.dialect).bind Planning.ofName?) = some p ↔
      v = .text p.name := by
  cases v with
  | integer n =>
    refine iff_of_false ?_ (by simp)
    intro read
    obtain ⟨s, setting, choice⟩ := Option.bind_eq_some_iff.mp read
    obtain ⟨_, rfl⟩ := integer?_eq_some_iff.mp setting
    exact absurd choice (by simp [Setting.choice?])
  | pair a b =>
    refine iff_of_false ?_ (by simp)
    intro read
    obtain ⟨s, setting, choice⟩ := Option.bind_eq_some_iff.mp read
    obtain ⟨_, _, rfl⟩ := setting?_eq_list setting
    exact absurd choice (by simp [Setting.choice?])
  | text s => simp [Plain.setting?, Setting.choice?, Planning.ofName?_eq_some_iff]

end

/-! ## One line -/

/-- The configuration with one line taken in. -/
def put? (c : Config) (l : String × Plain) : Option Config :=
  l.2.setting?.bind (c.assign? Toml.dialect l.1)

section

variable {c c' : Config} {f : Field} {v : Plain}

/-- What it means that a line puts its value into a field: the value fits the field and is found
there afterwards, and no other field has changed. -/
structure Put (c : Config) (f : Field) (v : Plain) (c' : Config) : Prop where
  fits : f.Fits v
  value : f.value c' = v
  others : ∀ g, g ≠ f → g.value c' = g.value c

theorem Put.eq_graft (put : Put c f v c') : c' = f.graft c c' :=
  ext_value fun g => by
    by_cases here : g = f
    · exact here ▸ (f.value_graft_self c c').symm
    · exact (put.others g here).trans (Field.value_graft_of_ne here c c').symm

theorem exists_put (c : Config) (fits : f.Fits v) : ∃ c', Put c f v c' := by
  obtain ⟨d, rfl⟩ := Field.exists_value fits
  exact ⟨f.graft c d, fits, f.value_graft_self c d, fun g other =>
    Field.value_graft_of_ne other c d⟩

theorem put_iff {α : Type} {read : Setting → Option α} (c : Config) (f : Field) (make : α → Config)
    (reads : ∀ a, v.setting?.bind read = some a ↔ f.Fits v ∧ f.value (make a) = v)
    (onto : ∀ d, ∃ a, f.graft c (make a) = f.graft c d) :
    (v.setting?.bind fun s => (read s).map fun a => f.graft c (make a)) = some c' ↔
      Put c f v c' := by
  have apart : (v.setting?.bind fun s => (read s).map fun a => f.graft c (make a)) =
    (v.setting?.bind read).map fun a => f.graft c (make a) := Option.map_bind.symm
  rw [apart, Option.map_eq_some_iff]
  constructor
  · rintro ⟨a, found, rfl⟩
    obtain ⟨fits, value⟩ := (reads a).mp found
    exact ⟨fits, (f.value_graft_self c _).trans value, fun g other =>
      Field.value_graft_of_ne other c _⟩
  · intro put
    obtain ⟨a, same⟩ := onto c'
    have value : f.value (make a) = v := by
      rw [← f.value_graft_self c, same, f.value_graft_self, put.value]
    exact ⟨a, (reads a).mpr ⟨put.fits, value⟩, same.trans put.eq_graft.symm⟩

/-- **One line** puts its value into the field that it names. -/
theorem put?_eq_some_iff (f : Field) : c.put? (f.key, v) = some c' ↔ Put c f v c' := by
  cases f with
  | updatePeriod =>
    exact put_iff c .updatePeriod (fun n => { updatePeriod := n })
      (fun n => bind_uint32?.trans (Field.eq_value_iff .updatePeriod { updatePeriod := n } nofun))
      fun d => ⟨d.updatePeriod, rfl⟩
  | frightCycles =>
    exact put_iff c .frightCycles (fun n => { frightCycles := n })
      (fun n => bind_uint8?.trans (Field.eq_value_iff .frightCycles { frightCycles := n } nofun))
      fun d => ⟨d.frightCycles, rfl⟩
  | pelletPoints =>
    exact put_iff c .pelletPoints (fun n => { pelletPoints := n })
      (fun n => bind_uint32?.trans (Field.eq_value_iff .pelletPoints { pelletPoints := n } nofun))
      fun d => ⟨d.pelletPoints, rfl⟩
  | superPelletPoints =>
    exact put_iff c .superPelletPoints (fun n => { superPelletPoints := n })
      (fun n => bind_uint32?.trans
        (Field.eq_value_iff .superPelletPoints { superPelletPoints := n } nofun))
      fun d => ⟨d.superPelletPoints, rfl⟩
  | ghostEatPoints =>
    exact put_iff c .ghostEatPoints (fun n => { ghostEatPoints := n })
      (fun n => bind_uint32?.trans
        (Field.eq_value_iff .ghostEatPoints { ghostEatPoints := n } nofun))
      fun d => ⟨d.ghostEatPoints, rfl⟩
  | fruitThresholds =>
    exact put_iff c .fruitThresholds (fun p => { firstFruit := p.1, secondFruit := p.2 })
      (fun p => bind_pair?.trans
        (Field.eq_value_iff .fruitThresholds { firstFruit := p.1, secondFruit := p.2 } nofun))
      fun d => ⟨(d.firstFruit, d.secondFruit), rfl⟩
  | rngSeed =>
    refine put_iff c .rngSeed (fun n => { rngSeed := n }) (fun n => bind_uint64?.trans ?_)
      fun d => ⟨d.rngSeed, rfl⟩
    constructor
    · rintro ⟨same, small⟩
      exact (Field.eq_value_iff .rngSeed { rngSeed := n } fun _ => small).mp same
    · rintro ⟨fits, rfl⟩
      exact ⟨rfl, Int.ofNat_lt.mp fits.2⟩
  | planning =>
    exact put_iff c .planning (fun p => { planning := p })
      (fun p => bind_choice?.trans (Field.eq_value_iff .planning { planning := p } nofun))
      fun d => ⟨d.planning, rfl⟩

end

theorem assignAll?_settingsOf? (c : Config) (ls : List (String × Plain)) :
    (Toml.settingsOf? ls).bind (assignAll? Toml.dialect c) = ls.foldlM put? c := by
  induction ls generalizing c with
  | nil => rfl
  | cons l ls ih =>
    rw [Toml.settingsOf?_cons, List.foldlM_cons, put?]
    cases l.2.setting? with
    | none => rfl
    | some s =>
      simp only [Option.bind_some]
      cases put : c.assign? Toml.dialect l.1 s with
      | none =>
        cases Toml.settingsOf? ls with
        | none => rfl
        | some settings => simp [assignAll?, put]
      | some c' =>
        refine Eq.trans ?_ (ih c')
        cases Toml.settingsOf? ls with
        | none => rfl
        | some settings => simp [assignAll?, put]

/-- **A text of plain lines** is taken in line by line. -/
theorem ofToml?_write (ls : List (String × Plain)) :
    ofToml? (Toml.write ls) =
      if (ls.map Prod.fst).Nodup then ls.foldlM put? {} else none := by
  rw [ofToml?, Toml.settings?_write]
  split
  next distinct =>
    rw [← assignAll?_settingsOf?]
    cases read : Toml.settingsOf? ls with
    | none => rfl
    | some settings =>
      rw [← Toml.map_fst_of_settingsOf? read] at distinct
      exact if_pos distinct
  next => rfl

/-! ## All lines -/

/-- Lines that each give a field a value that fits it, and no field twice. -/
structure Assigns (ls : List (String × Plain)) : Prop where
  distinct : (ls.map Prod.fst).Nodup
  fits : ∀ l ∈ ls, ∃ f : Field, l.1 = f.key ∧ f.Fits l.2

/-- The fields that lines name hold the values in the lines, and the others hold what they held. -/
structure Overrides (c : Config) (ls : List (String × Plain)) (c' : Config) : Prop where
  assigned : ∀ (f : Field) (v : Plain), (f.key, v) ∈ ls → f.value c' = v
  others : ∀ f : Field, f.key ∉ ls.map Prod.fst → f.value c' = f.value c

theorem Assigns.perm {ls ls' : List (String × Plain)} (same : ls.Perm ls') (h : Assigns ls) :
    Assigns ls' where
  distinct := (same.map Prod.fst).nodup_iff.mp h.distinct
  fits l hl := h.fits l (same.mem_iff.mpr hl)

theorem Overrides.perm {c c' : Config} {ls ls' : List (String × Plain)} (same : ls.Perm ls')
    (h : Overrides c ls c') : Overrides c ls' c' where
  assigned f v hv := h.assigned f v (same.mem_iff.mpr hv)
  others f hf := h.others f fun old => hf ((same.map Prod.fst).mem_iff.mp old)

theorem exists_key_of_assign? {c c' : Config} {d : Dialect} {name : String} {s : Setting}
    (assign : c.assign? d name s = some c') : ∃ f : Field, name = f.key := by
  unfold assign? at assign
  split at assign
  · exact ⟨.updatePeriod, rfl⟩
  · exact ⟨.frightCycles, rfl⟩
  · exact ⟨.pelletPoints, rfl⟩
  · exact ⟨.superPelletPoints, rfl⟩
  · exact ⟨.ghostEatPoints, rfl⟩
  · exact ⟨.fruitThresholds, rfl⟩
  · exact ⟨.rngSeed, rfl⟩
  · exact ⟨.planning, rfl⟩
  · exact absurd assign (by simp)

theorem exists_foldlM_put? {ls : List (String × Plain)}
    (fits : ∀ l ∈ ls, ∃ f : Field, l.1 = f.key ∧ f.Fits l.2) (c : Config) :
    ∃ c', ls.foldlM put? c = some c' := by
  induction ls generalizing c with
  | nil => exact ⟨c, rfl⟩
  | cons l ls ih =>
    obtain ⟨l_fits, ls_fit⟩ := List.forall_mem_cons.mp fits
    obtain ⟨f, name, fit⟩ := l_fits
    obtain ⟨c₁, put⟩ := exists_put c fit
    obtain ⟨c', rest⟩ := ih ls_fit c₁
    have step : c.put? l = some c₁ := by
      rw [← put?_eq_some_iff, ← name] at put
      exact put
    exact ⟨c', by rw [List.foldlM_cons, step]; exact rest⟩

theorem Put.overrides_iff {c c₁ c' : Config} {f : Field} {v : Plain}
    {ls : List (String × Plain)} (put : Put c f v c₁) (fresh : f.key ∉ ls.map Prod.fst) :
    Overrides c₁ ls c' ↔ Overrides c ((f.key, v) :: ls) c' := by
  constructor
  · intro h
    refine ⟨fun g w mem => ?_, fun g absent => ?_⟩
    · rcases List.mem_cons.mp mem with here | later
      · obtain ⟨name, rfl⟩ := Prod.mk.inj here
        obtain rfl := Field.key_injective name
        exact (h.others g fresh).trans put.value
      · exact h.assigned g w later
    · obtain ⟨apart, absent⟩ := List.ne_and_not_mem_of_not_mem_cons absent
      exact (h.others g absent).trans (put.others g fun same => apart (congrArg Field.key same))
  · intro h
    refine ⟨fun g w mem => h.assigned g w (List.mem_cons_of_mem _ mem), fun g absent => ?_⟩
    by_cases here : g = f
    · subst here
      exact (h.assigned g v List.mem_cons_self).trans put.value.symm
    · have apart : g.key ∉ ((f.key, v) :: ls).map Prod.fst :=
        List.not_mem_cons_of_ne_of_not_mem (fun same => here (Field.key_injective same)) absent
      exact (h.others g apart).trans (put.others g here).symm

/-- **Lines for different fields** override these fields and no others. -/
theorem foldlM_put?_eq_some_iff {c c' : Config} {ls : List (String × Plain)}
    (distinct : (ls.map Prod.fst).Nodup) :
    ls.foldlM put? c = some c' ↔
      (∀ l ∈ ls, ∃ f : Field, l.1 = f.key ∧ f.Fits l.2) ∧ Overrides c ls c' := by
  induction ls generalizing c with
  | nil =>
    constructor
    · rintro ⟨⟩
      exact ⟨nofun, nofun, fun f _ => rfl⟩
    · rintro ⟨-, h⟩
      exact congrArg some (ext_value fun f => (h.others f List.not_mem_nil).symm)
  | cons l ls ih =>
    obtain ⟨name, v⟩ := l
    rw [List.map_cons, List.nodup_cons] at distinct
    obtain ⟨fresh, distinct⟩ := distinct
    rw [List.foldlM_cons, List.forall_mem_cons]
    constructor
    · intro taken
      obtain ⟨c₁, put, rest⟩ := Option.bind_eq_some_iff.mp taken
      obtain ⟨s, -, assign⟩ := Option.bind_eq_some_iff.mp put
      obtain ⟨f, rfl⟩ := exists_key_of_assign? assign
      rw [put?_eq_some_iff] at put
      obtain ⟨fits, h⟩ := (ih distinct).mp rest
      exact ⟨⟨⟨f, rfl, put.fits⟩, fits⟩, (put.overrides_iff fresh).mp h⟩
    · rintro ⟨⟨⟨f, rfl, fit⟩, fits⟩, h⟩
      obtain ⟨c₁, put⟩ := exists_put c fit
      have rest := (ih distinct).mpr ⟨fits, (put.overrides_iff fresh).mpr h⟩
      exact Option.bind_eq_some_iff.mpr ⟨c₁, (put?_eq_some_iff f).mpr put, rest⟩

/-- **What a text of plain lines gives.** -/
theorem ofToml?_write_eq_some_iff {c : Config} {ls : List (String × Plain)} :
    ofToml? (Toml.write ls) = some c ↔ Assigns ls ∧ Overrides {} ls c := by
  rw [ofToml?_write]
  split
  next distinct =>
    rw [foldlM_put?_eq_some_iff distinct]
    exact ⟨fun h => ⟨⟨distinct, h.1⟩, h.2⟩, fun h => ⟨h.1.fits, h.2⟩⟩
  next repeated => exact iff_of_false nofun fun h => repeated h.1.distinct

theorem assigns_toLines {c : Config} (small : c.rngSeed.toNat < 2 ^ 63) : Assigns c.toLines where
  distinct := by
    rw [toLines, List.map_map]
    exact Field.nodup_keys
  fits l hl := by
    obtain ⟨f, -, rfl⟩ := List.mem_map.mp hl
    exact ⟨f, rfl, Field.fits_value fun _ => small⟩

theorem overrides_toLines (d c : Config) : Overrides d c.toLines c where
  assigned f v hv := by
    obtain ⟨g, -, same⟩ := List.mem_map.mp hv
    obtain ⟨name, rfl⟩ := Prod.mk.inj same
    rw [Field.key_injective name]
  others f absent :=
    absurd (List.mem_map.mpr ⟨_, List.mem_map.mpr ⟨f, f.mem_all, rfl⟩, rfl⟩) absent

/-- **Lines override the defaults**, in any order, if each gives another field a value that fits it;
and the lines for all fields give a configuration back. -/
theorem lines_override_defaults (ls : List (String × Plain)) :
    ((∃ c, ofToml? (Toml.write ls) = some c) ↔
      (ls.map Prod.fst).Nodup ∧ ∀ l ∈ ls, ∃ f : Field, l.1 = f.key ∧ f.Fits l.2) ∧
    (∀ c, ofToml? (Toml.write ls) = some c →
      (∀ (f : Field) (v : Plain), (f.key, v) ∈ ls → f.value c = v) ∧
      ∀ f : Field, f.key ∉ ls.map Prod.fst → f.value c = f.value {}) ∧
    (∀ ls', ls'.Perm ls → ofToml? (Toml.write ls') = ofToml? (Toml.write ls)) ∧
    ∀ c : Config, c.rngSeed.toNat < 2 ^ 63 → ls.Perm c.toLines →
      ofToml? (Toml.write ls) = some c := by
  refine ⟨⟨?_, ?_⟩, fun c read => ?_, fun ls' same => ?_, fun c small same => ?_⟩
  · rintro ⟨c, read⟩
    obtain ⟨distinct, fits⟩ := (ofToml?_write_eq_some_iff.mp read).1
    exact ⟨distinct, fits⟩
  · rintro ⟨distinct, fits⟩
    rw [ofToml?_write, if_pos distinct]
    exact exists_foldlM_put? fits {}
  · obtain ⟨assigned, others⟩ := (ofToml?_write_eq_some_iff.mp read).2
    exact ⟨assigned, others⟩
  · refine Option.ext fun c => ?_
    rw [ofToml?_write_eq_some_iff, ofToml?_write_eq_some_iff]
    exact ⟨fun h => ⟨h.1.perm same, h.2.perm same⟩,
      fun h => ⟨h.1.perm same.symm, h.2.perm same.symm⟩⟩
  · exact ofToml?_write_eq_some_iff.mpr
      ⟨(assigns_toLines small).perm same.symm, (overrides_toLines {} c).perm same.symm⟩

/-- Three lines in two orders, and all lines of the configuration that they give. -/
theorem three_lines_override_defaults :
    let ls : List (String × Plain) := [("planning", .text "sequential"),
      ("fright_cycles", .integer 20), ("fruit_thresholds", .pair 200 100)]
    let c : Config :=
      { frightCycles := 20, firstFruit := 200, secondFruit := 100, planning := .sequential }
    ofToml? (Toml.write ls) = some c ∧ ofToml? (Toml.write ls.reverse) = some c ∧
      ofToml? (Toml.write c.toLines) = some c := by
  intro ls c
  obtain ⟨accepted, values, order, -⟩ := lines_override_defaults ls
  have cycles : Field.frightCycles.Fits (.integer 20) := And.intro (by decide) (by decide)
  have thresholds : Field.fruitThresholds.Fits (.pair 200 100) :=
    And.intro (And.intro (by decide) (by decide)) (And.intro (by decide) (by decide))
  have fits : ∀ l ∈ ls, ∃ f : Field, l.1 = f.key ∧ f.Fits l.2 := by
    simp only [ls, List.forall_mem_cons]
    exact ⟨⟨.planning, rfl, .inr rfl⟩, ⟨.frightCycles, rfl, cycles⟩,
      ⟨.fruitThresholds, rfl, thresholds⟩, nofun⟩
  obtain ⟨c', read⟩ := accepted.mpr ⟨by decide, fits⟩
  obtain ⟨assigned, others⟩ := values c' read
  have same : c' = c := ext_value fun f => by
    cases f with
    | planning => exact assigned .planning _ (by decide)
    | frightCycles => exact assigned .frightCycles _ (by decide)
    | fruitThresholds => exact assigned .fruitThresholds _ (by decide)
    | _ => exact others _ (by decide)
  rw [same] at read
  have full := (lines_override_defaults c.toLines).2.2.2 c (by decide) (.refl _)
  exact ⟨read, (order _ ls.reverse_perm).trans read, full⟩

end MazeChase.Config
