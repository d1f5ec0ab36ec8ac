import DomBindings.Formatter.ConfigSearch
import DomBindings.Proofs.JsonReading
import DomBindings.Proofs.PathResolution
import Mathlib.Data.List.Infix

/-!
# The nearest configuration

A candidate is a configuration (`IsConfig`), or the search breaks off at it (`Obstructs`), or the
search goes on (`qualifies_cases`). It runs through the candidates of all directories in one list.
The first of them that ends it (`firstQualifying_cases`) is the nearest, which is the first by
directory and then by name (`isFirst_candidatesFor`). So the search gives the nearest configuration
just if the nearest candidate that ends it is no obstruction. A manifest that is a document and no
object may be one: an integer of too many digits is refused by another error than what is malformed.
-/

namespace DomBindings.ConfigSearch

variable {t : FileTree} {target : Path} {place directory : Place} {name : Text} {fault : Fault}

/-! ### Candidates -/

/-- The names of the candidates in a directory. -/
def candidateNames : List Text :=
  fileNames ++ [manifestName]

/-- Whether a candidate is a manifest of this text. -/
def HoldsManifest (t : FileTree) (directory : Place) (name s : Text) : Prop :=
  name = manifestName ∧ ∃ bytes, t.HoldsFile (Place.path (directory ++ [name])) bytes ∧
    Text.ofFileBytes bytes = .ok s

/-- Whether a text is a document that is an object with an entry for the formatter. -/
def HasEntry (s : Text) : Prop :=
  ∃ members, Json.read s = .ok (.object members) ∧ manifestEntry ∈ members.map Prod.fst

/-- Whether a candidate is a configuration: a file of one of the names, or a manifest with an entry
for the formatter. -/
def IsConfig (t : FileTree) (directory : Place) (name : Text) : Prop :=
  (name ∈ fileNames ∧ ∃ bytes, t.HoldsFile (Place.path (directory ++ [name])) bytes) ∨
    ∃ s, HoldsManifest t directory name s ∧ HasEntry s

/-- A candidate at which the search breaks off, and the fault that is then reported. -/
inductive Obstructs (t : FileTree) (directory : Place) (name : Text) : Fault → Prop
  /-- the file system cannot be asked for the candidate -/
  | outOfReach (h : t.IsOutOfReach (Place.path (directory ++ [name]))) :
      Obstructs t directory name
        (.file (.refused .nameTooLong (Place.path (directory ++ [name])).text))
  /-- the manifest is no text -/
  | notText {bytes : List UInt8} {e : Text.Utf8Error} (hname : name = manifestName)
      (hfile : t.HoldsFile (Place.path (directory ++ [name])) bytes)
      (hbytes : Text.ofFileBytes bytes = .error e) : Obstructs t directory name (.encoding e)
  /-- the manifest has an integer of more digits than are read -/
  | longNumeral {s : Text} {digits : Nat} (h : HoldsManifest t directory name s)
      (hdigits : maxDecimalDigits < digits)
      (hread : Json.read s = .error (.numeral (.tooLongToRead digits))) :
      Obstructs t directory name (.numeral (.tooLongToRead digits))

/-- Whether the search ends at a candidate, with a configuration or with a fault. -/
def Stops (t : FileTree) (directory : Place) (name : Text) : Prop :=
  IsConfig t directory name ∨ ∃ fault, Obstructs t directory name fault

/-- Candidates that look like a configuration and are none. -/
inductive IsPassedOver (t : FileTree) (directory : Place) (name : Text) : Prop
  /-- a directory -/
  | directory {place : Place}
      (h : t.locate (Place.path (directory ++ [name])) = .ok (place, some .directory))
  /-- a manifest that is refused as malformed -/
  | malformed {s : Text} (h : HoldsManifest t directory name s)
      (hread : Json.read s = .error .malformed)
  /-- a manifest that is read and is no object -/
  | notObject {s : Text} {document : Json} (h : HoldsManifest t directory name s)
      (hread : Json.read s = .ok document) (hdocument : ∀ members, document ≠ .object members)

/-! ### What comes of a candidate -/

theorem not_mem_fileNames : manifestName ∉ fileNames := by
  decide

theorem hasMember_iff {entry : Text} {document : Json} :
    document.hasMember entry = true ↔
      ∃ members, document = .object members ∧ entry ∈ members.map Prod.fst := by
  cases document <;> simp [Json.hasMember]

theorem qualifies_of_isFile_false
    (h : t.isFile (Place.path (directory ++ [name])) = .ok false) :
    qualifies t (directory ++ [name]) = .ok false := by
  simp only [qualifies, h]

/-- A manifest that is a file is judged by its bytes. -/
theorem qualifies_manifest {bytes : List UInt8}
    (hfile : t.HoldsFile (Place.path (directory ++ [manifestName])) bytes) :
    qualifies t (directory ++ [manifestName]) = hasEntry bytes := by
  have hasked := FileTree.isFile_eq_true_iff.mpr ⟨bytes, hfile⟩
  simp only [qualifies, hasked, List.getLast?_concat, if_pos, hfile.read_eq]

theorem HoldsManifest.qualifies_of_ok {s : Text} {document : Json}
    (h : HoldsManifest t directory name s) (hread : Json.read s = .ok document) :
    qualifies t (directory ++ [name]) = .ok (document.hasMember manifestEntry) := by
  obtain ⟨rfl, bytes, hfile, hbytes⟩ := h
  simp only [qualifies_manifest hfile, hasEntry, hbytes, hread]

theorem HoldsManifest.qualifies_of_malformed {s : Text} (h : HoldsManifest t directory name s)
    (hread : Json.read s = .error .malformed) : qualifies t (directory ++ [name]) = .ok false := by
  obtain ⟨rfl, bytes, hfile, hbytes⟩ := h
  simp only [qualifies_manifest hfile, hasEntry, hbytes, hread]

theorem HoldsManifest.qualifies_of_numeral {s : Text} {e : NumeralError}
    (h : HoldsManifest t directory name s) (hread : Json.read s = .error (.numeral e)) :
    qualifies t (directory ++ [name]) = .error (.numeral e) := by
  obtain ⟨rfl, bytes, hfile, hbytes⟩ := h
  simp only [qualifies_manifest hfile, hasEntry, hbytes, hread]

theorem qualifies_of_isConfig (h : IsConfig t directory name) :
    qualifies t (directory ++ [name]) = .ok true := by
  obtain ⟨hname, hfile⟩ | ⟨s, hmanifest, members, hread, hentry⟩ := h
  · have hother : ¬ some name = some manifestName := by
      rintro ⟨⟩
      exact not_mem_fileNames hname
    simp only [qualifies, FileTree.isFile_eq_true_iff.mpr hfile, List.getLast?_concat,
      if_neg hother]
  · rw [hmanifest.qualifies_of_ok hread, hasMember_iff.mpr ⟨members, rfl, hentry⟩]

theorem qualifies_of_obstructs (h : Obstructs t directory name fault) :
    qualifies t (directory ++ [name]) = .error fault := by
  cases h with
  | outOfReach h => simp only [qualifies, FileTree.isFile_eq_error h]
  | notText hname hfile hbytes =>
    subst hname
    simp only [qualifies_manifest hfile, hasEntry, hbytes]
  | longNumeral h hdigits hread => exact h.qualifies_of_numeral hread

/-- A candidate is a configuration, or the search breaks off there or goes on. -/
theorem qualifies_cases (hname : name ∈ candidateNames) :
    Stops t directory name ∨ qualifies t (directory ++ [name]) = .ok false := by
  rcases FileTree.isFile_cases t (Place.path (directory ++ [name])) with
    ⟨-, bytes, hfile⟩ | ⟨hnone, -, -⟩ | ⟨-, hfar⟩
  · rcases List.mem_append.mp hname with hname | hname
    · exact .inl (.inl (.inl ⟨hname, bytes, hfile⟩))
    have hname := List.mem_singleton.mp hname
    cases hbytes : Text.ofFileBytes bytes with
    | error e => exact .inl (.inr ⟨_, .notText hname hfile hbytes⟩)
    | ok s =>
      have hmanifest : HoldsManifest t directory name s := ⟨hname, bytes, hfile, hbytes⟩
      cases hread : Json.read s with
      | error e =>
        cases e with
        | malformed => exact .inr (hmanifest.qualifies_of_malformed hread)
        | numeral e =>
          obtain ⟨digits, hdigits, rfl⟩ := Json.refusesExcess_read s e hread
          exact .inl (.inr ⟨_, .longNumeral hmanifest hdigits hread⟩)
      | ok document =>
        cases hentry : document.hasMember manifestEntry with
        | true =>
          obtain ⟨members, rfl, hmember⟩ := hasMember_iff.mp hentry
          exact .inl (.inl (.inr ⟨s, hmanifest, members, hread, hmember⟩))
        | false =>
          refine .inr ?_
          rw [hmanifest.qualifies_of_ok hread, hentry]
  · exact .inr (qualifies_of_isFile_false hnone)
  · exact .inl (.inr ⟨_, .outOfReach hfar⟩)

theorem Stops.qualifies_ne (h : Stops t directory name) :
    qualifies t (directory ++ [name]) ≠ .ok false := by
  rcases h with h | ⟨fault, h⟩
  · simp [qualifies_of_isConfig h]
  · simp [qualifies_of_obstructs h]

theorem stops_iff (hname : name ∈ candidateNames) :
    Stops t directory name ↔ qualifies t (directory ++ [name]) ≠ .ok false :=
  ⟨Stops.qualifies_ne, (qualifies_cases hname).resolve_right⟩

/-- What is passed over does not end the search. -/
theorem IsPassedOver.not_stops (h : IsPassedOver t directory name) : ¬ Stops t directory name := by
  intro hstops
  apply hstops.qualifies_ne
  cases h with
  | directory h => exact qualifies_of_isFile_false (FileTree.isFile_directory h)
  | malformed h hread => exact h.qualifies_of_malformed hread
  | @notObject s document h hread hdocument =>
    have hnone : document.hasMember manifestEntry = false := by
      rw [Bool.eq_false_iff]
      intro hentry
      obtain ⟨members, hmembers, -⟩ := hasMember_iff.mp hentry
      exact hdocument members hmembers
    rw [h.qualifies_of_ok hread, hnone]

/-! ### The first of some candidates -/

/-- Whether something is the first in a list that has a property. -/
def IsFirst {α : Type} (P : α → Prop) (xs : List α) (x : α) : Prop :=
  ∃ before after, xs = before ++ x :: after ∧ P x ∧ ∀ y ∈ before, ¬ P y

open Classical in
theorem isFirst_iff_find? {α : Type} {P : α → Prop} {xs : List α} {x : α} :
    IsFirst P xs x ↔ xs.find? (fun y => decide (P y)) = some x := by
  rw [List.find?_eq_some_iff_append]
  constructor
  · rintro ⟨before, after, hxs, hx, hbefore⟩
    exact ⟨by simpa using hx, before, after, hxs, by simpa using hbefore⟩
  · rintro ⟨hx, before, after, hxs, hbefore⟩
    exact ⟨before, after, hxs, by simpa using hx, by simpa using hbefore⟩

theorem IsFirst.mem {α : Type} {P : α → Prop} {xs : List α} {x : α} (h : IsFirst P xs x) :
    x ∈ xs := by
  obtain ⟨before, after, rfl, -⟩ := h
  exact List.mem_append_right _ List.mem_cons_self

theorem IsFirst.holds {α : Type} {P : α → Prop} {xs : List α} {x : α} (h : IsFirst P xs x) :
    P x := by
  obtain ⟨before, after, -, hx, -⟩ := h
  exact hx

theorem IsFirst.unique {α : Type} {P : α → Prop} {xs : List α} {x y : α} (hx : IsFirst P xs x)
    (hy : IsFirst P xs y) : x = y :=
  Option.some.inj ((isFirst_iff_find?.mp hx).symm.trans (isFirst_iff_find?.mp hy))

theorem exists_isFirst {α : Type} {P : α → Prop} {xs : List α} {x : α} (hx : x ∈ xs) (h : P x) :
    ∃ y, IsFirst P xs y := by
  classical
  obtain ⟨y, hy⟩ := Option.isSome_iff_exists.mp
    (List.find?_isSome.mpr ⟨x, hx, decide_eq_true h⟩ : (xs.find? fun y => decide (P y)).isSome)
  exact ⟨y, isFirst_iff_find?.mpr hy⟩

theorem IsFirst.congr {α : Type} {P Q : α → Prop} {xs : List α} {x : α}
    (hpq : ∀ y ∈ xs, P y ↔ Q y) (h : IsFirst P xs x) : IsFirst Q xs x := by
  obtain ⟨before, after, rfl, hx, hbefore⟩ := h
  refine ⟨before, after, rfl, (hpq _ (by simp)).mp hx, fun y hy => ?_⟩
  exact fun hq => hbefore y hy ((hpq y (List.mem_append_left _ hy)).mpr hq)

/-- The search ends at the first candidate that is not passed over, as that is judged. -/
theorem firstQualifying_cases (t : FileTree) (candidates : List Place) :
    (∃ candidate, IsFirst (fun c => qualifies t c ≠ .ok false) candidates candidate ∧
        firstQualifying t candidates = (fun _ => some candidate) <$> qualifies t candidate) ∨
      (∀ candidate ∈ candidates, qualifies t candidate = .ok false) ∧
        firstQualifying t candidates = .ok none := by
  induction candidates with
  | nil => exact .inr ⟨by simp, rfl⟩
  | cons candidate rest ih =>
    cases hq : qualifies t candidate with
    | error fault =>
      refine .inl ⟨candidate, ⟨[], rest, rfl, by simp [hq], by simp⟩, ?_⟩
      rw [firstQualifying, hq]
      rfl
    | ok found =>
      cases found with
      | true =>
        refine .inl ⟨candidate, ⟨[], rest, rfl, by simp [hq], by simp⟩, ?_⟩
        rw [firstQualifying, hq]
        rfl
      | false =>
        have hstep : firstQualifying t (candidate :: rest) = firstQualifying t rest := by
          rw [firstQualifying, hq]
          rfl
        rw [hstep]
        rcases ih with ⟨c, ⟨before, after, rfl, hc, hbefore⟩, hfound⟩ | ⟨hnone, hfound⟩
        · exact .inl ⟨c, ⟨candidate :: before, after, rfl, hc,
            List.forall_mem_cons.mpr ⟨not_not.mpr hq, hbefore⟩⟩, hfound⟩
        · exact .inr ⟨List.forall_mem_cons.mpr ⟨hq, hnone⟩, hfound⟩

/-! ### Nearest candidates -/

/-- The directories that are searched for a file at a place: its own and those above it. -/
def directories (place : Place) : List Place :=
  place.dropLast.inits.reverse

/-- Whether a candidate is the nearest with a property: in the first directory that has one, the
first of its names. -/
structure IsNearest (P : Place → Text → Prop) (place directory : Place) (name : Text) : Prop where
  /-- no directory that is nearer has one -/
  level : IsFirst (fun d => ∃ n ∈ candidateNames, P d n) (directories place) directory
  /-- no name that is earlier has it -/
  order : IsFirst (P directory) candidateNames name

theorem IsNearest.unique {P : Place → Text → Prop} {d : Place} {n : Text}
    (h : IsNearest P place directory name) (h' : IsNearest P place d n) :
    directory = d ∧ name = n := by
  obtain rfl := h.level.unique h'.level
  exact ⟨rfl, h.order.unique h'.order⟩

theorem exists_isNearest {P : Place → Text → Prop} (hd : directory ∈ directories place)
    (hn : name ∈ candidateNames) (h : P directory name) : ∃ d n, IsNearest P place d n := by
  obtain ⟨d, hfirst⟩ : ∃ d, IsFirst (fun d => ∃ n ∈ candidateNames, P d n) (directories place) d :=
    exists_isFirst hd ⟨name, hn, h⟩
  obtain ⟨n, hn, h⟩ := hfirst.holds
  obtain ⟨n, hname⟩ := exists_isFirst hn h
  exact ⟨d, n, hfirst, hname⟩

theorem IsNearest.congr {P Q : Place → Text → Prop}
    (hpq : ∀ d, ∀ n ∈ candidateNames, P d n ↔ Q d n) (h : IsNearest P place directory name) :
    IsNearest Q place directory name where
  level := h.level.congr fun d _ =>
    exists_congr fun n => and_congr_right fun hn => hpq d n hn
  order := h.order.congr fun n hn => hpq directory n hn

theorem upward_eq (directory : Place) : upward directory = directory.inits.reverse := by
  have htails (names : List Text) : upwardFrom names = names.tails.map List.reverse := by
    induction names with
    | nil => rfl
    | cons name above ih => rw [upwardFrom, ih, List.tails_cons, List.map_cons]
  rw [upward, htails, List.map_reverse_tails, List.reverse_reverse]

/-- The first of all candidates is the nearest of them. -/
theorem isFirst_candidatesFor {P : Place → Prop} {candidate : Place}
    (h : IsFirst P (candidatesFor place) candidate) :
    ∃ d n, candidate = d ++ [n] ∧ IsNearest (fun d n => P (d ++ [n])) place d n := by
  classical
  rw [isFirst_iff_find?, candidatesFor, upward_eq, List.find?_flatMap,
    List.findSome?_eq_some_iff] at h
  obtain ⟨nearer, d, farther, hsplit, hfound, hnone⟩ := h
  rw [candidatesIn, List.find?_map, Option.map_eq_some_iff] at hfound
  obtain ⟨n, hn, rfl⟩ := hfound
  have hname : IsFirst (fun n => P (d ++ [n])) candidateNames n := isFirst_iff_find?.mpr hn
  refine ⟨d, n, rfl, ⟨nearer, farther, hsplit, ⟨n, hname.mem, hname.holds⟩, ?_⟩, hname⟩
  rintro d' hd' ⟨n', hn', hp'⟩
  have hnone := List.find?_eq_none.mp (hnone d' hd') _ (List.mem_map_of_mem hn')
  simp [hp'] at hnone

theorem mem_candidatesFor (hd : directory ∈ directories place) (hn : name ∈ candidateNames) :
    directory ++ [name] ∈ candidatesFor place := by
  rw [candidatesFor, upward_eq]
  exact List.mem_flatMap.mpr ⟨directory, hd, List.mem_map_of_mem hn⟩

/-! ### The search -/

/-- What comes of the search for the configuration of a file at a place. -/
theorem findFormatterConfig_cases (hplace : t.resolve target = .ok place) :
    (∃ d n, IsNearest (Stops t) place d n ∧
        findFormatterConfig t target
          = (fun _ => Place.path (d ++ [n])) <$> qualifies t (d ++ [n])) ∨
      (∀ d ∈ directories place, ∀ n ∈ candidateNames, ¬ Stops t d n) ∧
        findFormatterConfig t target = .error (.formatter (.noConfig target.text)) := by
  rcases firstQualifying_cases t (candidatesFor place) with ⟨c, hfirst, hc⟩ | ⟨hnone, hc⟩
  · obtain ⟨d, n, rfl, hnearest⟩ := isFirst_candidatesFor hfirst
    refine .inl ⟨d, n, hnearest.congr fun d n hn => (stops_iff hn).symm, ?_⟩
    simp only [findFormatterConfig, hplace, hc]
    cases qualifies t (d ++ [n]) <;> rfl
  · refine .inr ⟨fun d hd n hn hstops => ?_, ?_⟩
    · exact hstops.qualifies_ne (hnone _ (mem_candidatesFor hd hn))
    · simp only [findFormatterConfig, hplace, hc]
      rfl

/-- Whether the search for the configuration of a file at a place gives the nearest one, and
complains just if there is none. -/
structure GivesNearest (t : FileTree) (target : Path) (place : Place) : Prop where
  /-- it gives the nearest configuration and nothing else -/
  finds : ∀ found, findFormatterConfig t target = .ok found ↔
    ∃ d n, IsNearest (IsConfig t) place d n ∧ found = Place.path (d ++ [n])
  /-- it complains just if no directory has one -/
  fails : findFormatterConfig t target = .error (.formatter (.noConfig target.text)) ↔
    ∀ d ∈ directories place, ∀ n ∈ candidateNames, ¬ IsConfig t d n

/-- A nearest stop that is a configuration is the nearest configuration. -/
theorem IsNearest.isConfig (h : IsNearest (Stops t) place directory name)
    (hconfig : IsConfig t directory name) : IsNearest (IsConfig t) place directory name := by
  obtain ⟨⟨nearer, farther, hlevels, -, hnearer⟩, earlier, later, hnames, -, hearlier⟩ := h
  have hname : name ∈ candidateNames := by simp [hnames]
  refine ⟨⟨nearer, farther, hlevels, ⟨name, hname, hconfig⟩, ?_⟩,
    earlier, later, hnames, hconfig, fun n hn h => hearlier n hn (.inl h)⟩
  rintro d hd ⟨n, hn, h⟩
  exact hnearer d hd ⟨n, hn, .inl h⟩

/-- A search that breaks off does not give the nearest configuration. -/
theorem not_givesNearest_of_error (hfind : findFormatterConfig t target = .error fault)
    (hfault : fault ≠ .formatter (.noConfig target.text)) : ¬ GivesNearest t target place := by
  intro h
  refine hfault (Except.error.inj (hfind.symm.trans (h.fails.mpr fun d hd n hn hconfig => ?_)))
  obtain ⟨d, n, hnearest⟩ := exists_isNearest hd hn hconfig
  cases hfind.symm.trans ((h.finds _).mpr ⟨d, n, hnearest, rfl⟩)

theorem Obstructs.not_isConfig (h : Obstructs t directory name fault) :
    ¬ IsConfig t directory name := by
  intro hconfig
  cases (qualifies_of_obstructs h).symm.trans (qualifies_of_isConfig hconfig)

theorem givesNearest_of_isConfig (h : IsNearest (IsConfig t) place directory name)
    (hfind : findFormatterConfig t target
      = (fun _ => Place.path (directory ++ [name])) <$> qualifies t (directory ++ [name])) :
    GivesNearest t target place := by
  have hconfig : IsConfig t directory name := h.order.holds
  have hfound : findFormatterConfig t target = .ok (Place.path (directory ++ [name])) := by
    rw [hfind, qualifies_of_isConfig hconfig]
    rfl
  refine ⟨fun found => ⟨fun hok => ?_, ?_⟩, iff_of_false (by simp [hfound]) fun hnone => ?_⟩
  · exact ⟨directory, name, h, Except.ok.inj (hok.symm.trans hfound)⟩
  · rintro ⟨d, n, hnearest, rfl⟩
    obtain ⟨rfl, rfl⟩ := h.unique hnearest
    exact hfound
  · exact hnone directory h.level.mem name h.order.mem hconfig

theorem givesNearest_of_none (h : ∀ d ∈ directories place, ∀ n ∈ candidateNames, ¬ IsConfig t d n)
    (hfind : findFormatterConfig t target = .error (.formatter (.noConfig target.text))) :
    GivesNearest t target place := by
  refine ⟨fun found => iff_of_false (by simp [hfind]) ?_, iff_of_true hfind h⟩
  rintro ⟨d, n, hnearest, -⟩
  exact h d hnearest.level.mem n hnearest.order.mem hnearest.order.holds

theorem Obstructs.ne_noConfig (h : Obstructs t directory name fault) (s : Text) :
    fault ≠ .formatter (.noConfig s) := by
  cases h <;> simp

/-- Where the nearest candidate that ends the search is one at which it breaks off, the search
reports the fault of that one. -/
theorem findFormatterConfig_of_obstructs (hplace : t.resolve target = .ok place)
    (hnearest : IsNearest (Stops t) place directory name) (h : Obstructs t directory name fault) :
    findFormatterConfig t target = .error fault := by
  rcases findFormatterConfig_cases hplace with ⟨d, n, hnearest', hfind⟩ | ⟨hnone, -⟩
  · obtain ⟨rfl, rfl⟩ := hnearest.unique hnearest'
    rw [hfind, qualifies_of_obstructs h]
    rfl
  · have hname := hnearest.order.mem
    exact absurd (.inr ⟨fault, h⟩) (hnone directory hnearest.level.mem name hname)

/-- **The nearest configuration governs a file.** The search gives it, and complains just if there
is none, unless the nearest candidate that ends the search is one at which it breaks off; then it
reports the fault of that one. Directories, manifests that are refused as malformed and manifests
that are read and are no objects do not end it. -/
theorem nearest_config_governs (hplace : t.resolve target = .ok place) :
    (GivesNearest t target place ↔
        ¬ ∃ d n fault, IsNearest (Stops t) place d n ∧ Obstructs t d n fault) ∧
      (∀ d n fault, IsNearest (Stops t) place d n → Obstructs t d n fault →
        findFormatterConfig t target = .error fault) ∧
      ∀ d n, IsPassedOver t d n → ¬ Stops t d n := by
  refine ⟨⟨?_, fun hclear => ?_⟩, fun _ _ _ => findFormatterConfig_of_obstructs hplace,
    fun _ _ h => h.not_stops⟩
  · rintro h ⟨d, n, fault, hnearest, hobstructs⟩
    exact not_givesNearest_of_error (findFormatterConfig_of_obstructs hplace hnearest hobstructs)
      (hobstructs.ne_noConfig _) h
  · rcases findFormatterConfig_cases hplace with ⟨d, n, hnearest, hfind⟩ | ⟨hnone, hfind⟩
    · -- the search ends at a configuration
      have hconfig : IsConfig t d n := hnearest.order.holds.resolve_right fun ⟨fault, hobstructs⟩ =>
        hclear ⟨d, n, fault, hnearest, hobstructs⟩
      exact givesNearest_of_isConfig (hnearest.isConfig hconfig) hfind
    · -- no candidate ends the search
      exact givesNearest_of_none (fun d hd n hn h => hnone d hd n hn (.inl h)) hfind

/-- A tree in which a directory and a broken manifest are nearer than the configuration. -/
def passedOverTree : FileTree :=
  ⟨[(["src".toList], .directory),
    (["src".toList, ".prettierrc".toList], .directory),
    (["src".toList, manifestName], .file [123] false),
    ([".prettierrc.yml".toList], .file [] false)], []⟩

theorem nearest_config_governs_passedOver :
    IsPassedOver passedOverTree ["src".toList] ".prettierrc".toList ∧
      IsPassedOver passedOverTree ["src".toList] manifestName ∧
      findFormatterConfig passedOverTree (.ofText "src/html.ts".toList)
        = .ok (Place.path [".prettierrc.yml".toList]) ∧
      GivesNearest passedOverTree (.ofText "src/html.ts".toList)
        ["src".toList, "html.ts".toList] := by
  have hplace : passedOverTree.resolve (.ofText "src/html.ts".toList)
      = .ok ["src".toList, "html.ts".toList] := by
    decide +kernel
  obtain ⟨found, hfind, hfound⟩ := @Traversal.exists_of_toOption _ _
    (findFormatterConfig passedOverTree (.ofText "src/html.ts".toList))
    (fun found => decide (found = Place.path [".prettierrc.yml".toList])) (by decide +kernel)
  obtain rfl := of_decide_eq_true hfound
  obtain ⟨hgives, hbreaks, -⟩ := nearest_config_governs hplace
  have hdirectory : passedOverTree.locate (Place.path ["src".toList, ".prettierrc".toList])
      = .ok (["src".toList, ".prettierrc".toList], some .directory) := by
    decide +kernel
  have hmanifest : passedOverTree.HoldsFile (Place.path ["src".toList, manifestName]) [123] :=
    ⟨["src".toList, manifestName], false, by decide +kernel⟩
  have htext : Text.ofFileBytes [123] = .ok ['\x7b'] := by decide +kernel
  refine ⟨.directory hdirectory, .malformed ⟨rfl, [123], hmanifest, htext⟩ rfl, hfind,
    hgives.mpr ?_⟩
  rintro ⟨d, n, fault, hnearest, hobstructs⟩
  cases hfind.symm.trans (hbreaks d n fault hnearest hobstructs)

theorem decodeFrom_ones (position n : Nat) :
    Text.decodeFrom position (List.replicate n 49) = .ok (List.replicate n '1') := by
  induction n generalizing position with
  | zero => rfl
  | succ n ih =>
    have hbyte : (49 : UInt8) < 0x80 := by decide
    rw [List.replicate_succ, Text.decodeFrom.eq_def]
    dsimp only
    rw [if_pos hbyte, ih]
    rfl

theorem foldNewlines_ones (n : Nat) :
    Text.foldNewlines (List.replicate n '1') = List.replicate n '1' := by
  induction n with
  | zero => rfl
  | succ n ih =>
    rw [List.replicate_succ, Text.foldNewlines.eq_def]
    simp [ih]

theorem ofFileBytes_ones (n : Nat) :
    Text.ofFileBytes (List.replicate n 49) = .ok (List.replicate n '1') := by
  rw [Text.ofFileBytes, Text.decode, decodeFrom_ones]
  exact congrArg Except.ok (foldNewlines_ones n)

/-- A tree in which a manifest that is one numeral is nearer than the configuration. -/
def numeralTree (digits : Nat) : FileTree :=
  ⟨[(["src".toList], .directory),
    (["src".toList, manifestName], .file (List.replicate digits 49) false),
    ([".prettierrc".toList], .file [] false)], []⟩

/-- In it the manifest is the first candidate that ends the search. -/
theorem stops_numeralTree :
    Obstructs (numeralTree 4301) ["src".toList] manifestName (.numeral (.tooLongToRead 4301)) ∧
      ∀ n ∈ fileNames, ¬ Stops (numeralTree 4301) ["src".toList] n := by
  have hmanifest : (numeralTree 4301).HoldsFile (Place.path ["src".toList, manifestName])
      (List.replicate 4301 49) :=
    ⟨["src".toList, manifestName], false, rfl⟩
  refine ⟨.longNumeral ⟨rfl, _, hmanifest, ofFileBytes_ones 4301⟩ (by decide)
    (Json.read_ones (by decide)), fun n hn hstops => hstops.qualifies_ne ?_⟩
  have hothers : fileNames.all (fun n =>
      (qualifies (numeralTree 4301) (["src".toList] ++ [n])).toOption = some false) = true := by
    decide +kernel
  have hname := of_decide_eq_true (List.all_eq_true.mp hothers n hn)
  cases hq : qualifies (numeralTree 4301) (["src".toList] ++ [n]) with
  | error fault =>
    rw [hq] at hname
    cases hname
  | ok found =>
    rw [hq] at hname
    exact congrArg Except.ok (Option.some.inj hname)

/-- A manifest that is a document and no object keeps the search from the nearest configuration. -/
theorem nearest_config_missed_numeral :
    Text.ofFileBytes (List.replicate 4301 49) = .ok (List.replicate 4301 '1') ∧
      (numeralTree 4301).resolve (.ofText "src/html.ts".toList)
        = .ok ["src".toList, "html.ts".toList] ∧
      IsNearest (IsConfig (numeralTree 4301)) ["src".toList, "html.ts".toList] []
        ".prettierrc".toList ∧
      findFormatterConfig (numeralTree 4301) (.ofText "src/html.ts".toList)
        = .error (.numeral (.tooLongToRead 4301)) ∧
      ¬ GivesNearest (numeralTree 4301) (.ofText "src/html.ts".toList)
        ["src".toList, "html.ts".toList] := by
  have hplace : (numeralTree 4301).resolve (.ofText "src/html.ts".toList)
      = .ok ["src".toList, "html.ts".toList] := by
    decide +kernel
  obtain ⟨hobstructs, hothers⟩ := stops_numeralTree
  have hnearest : IsNearest (Stops (numeralTree 4301)) ["src".toList, "html.ts".toList]
      ["src".toList] manifestName :=
    ⟨⟨[], [[]], rfl, ⟨manifestName, by decide, .inr ⟨_, hobstructs⟩⟩, by simp⟩,
      fileNames, [], rfl, .inr ⟨_, hobstructs⟩, hothers⟩
  have hfind := findFormatterConfig_of_obstructs hplace hnearest hobstructs
  have hconfig : IsConfig (numeralTree 4301) [] ".prettierrc".toList :=
    .inl ⟨by decide, [], [".prettierrc".toList], false, by decide +kernel⟩
  refine ⟨ofFileBytes_ones 4301, hplace,
    ⟨⟨[["src".toList]], [], rfl, ⟨".prettierrc".toList, by decide, hconfig⟩, ?_⟩,
      [], _, rfl, hconfig, by simp⟩,
    hfind, not_givesNearest_of_error hfind (hobstructs.ne_noConfig _)⟩
  rintro d hd ⟨n, hn, h⟩
  obtain rfl := List.mem_singleton.mp hd
  rcases List.mem_append.mp hn with hn | hn
  · exact hothers n hn (.inl h)
  · obtain rfl := List.mem_singleton.mp hn
    exact hobstructs.not_isConfig h

end DomBindings.ConfigSearch
