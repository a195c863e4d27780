import Mathlib.Data.Char
import TaskFlow.Proofs.Document.Configuration

/-!
# What the structural checks accept

- `ValidName`: the names in use, which `isValidName` decides (`isValidName_iff`);
- `Documents.Sound`: valid names without repeats, at least one flow, and one definition for each flow and for nothing
  else; `DefinedOnce` is a flow and its definition;
- `Documents.check_accepts_sound`: such documents and no others are accepted, as the nodes document with the
  definition of each flow.
-/

namespace TaskFlow

/-! ## Names -/

def IsLetter (c : Char) : Prop := ('A' ≤ c ∧ c ≤ 'Z') ∨ ('a' ≤ c ∧ c ≤ 'z')

def IsDigit (c : Char) : Prop := '0' ≤ c ∧ c ≤ '9'

/-- Not empty, of ASCII letters, digits and underscores, and no digit in front. -/
structure ValidName (name : String) : Prop where
  ne_empty : name ≠ ""
  chars : ∀ c ∈ name.toList, IsLetter c ∨ IsDigit c ∨ c = '_'
  head : ∀ c, name.toList.head? = some c → ¬IsDigit c

theorem isAlpha_iff {c : Char} : c.isAlpha = true ↔ IsLetter c := by
  have hupper : c.isUpper = true ↔ 'A' ≤ c ∧ c ≤ 'Z' := decide_eq_true_iff
  have hlower : c.isLower = true ↔ 'a' ≤ c ∧ c ≤ 'z' :=
    Bool.and_eq_true_iff.trans (and_congr decide_eq_true_iff decide_eq_true_iff)
  exact Bool.or_eq_true_iff.trans (or_congr hupper hlower)

theorem isDigit_iff {c : Char} : c.isDigit = true ↔ IsDigit c := by
  rw [Char.isDigit, Bool.and_eq_true, decide_eq_true_iff, decide_eq_true_iff]
  exact Iff.rfl

theorem IsLetter.not_isDigit {c : Char} (h : IsLetter c) : ¬IsDigit c := by
  rintro ⟨-, hnine⟩
  have hlast : '9' < c := by
    rcases h with ⟨hfirst, -⟩ | ⟨hfirst, -⟩
    · exact lt_of_lt_of_le (by decide : '9' < 'A') hfirst
    · exact lt_of_lt_of_le (by decide : '9' < 'a') hfirst
  exact absurd hnine hlast.not_ge

theorem not_isDigit_underscore : ¬IsDigit '_' := by
  unfold IsDigit
  decide

/-- The first character of a name is a letter or an underscore. -/
theorem validName_iff_of_cons {name : String} {c : Char} {cs : List Char} (h : name.toList = c :: cs) :
    ValidName name ↔ (IsLetter c ∨ c = '_') ∧ ∀ d ∈ cs, IsLetter d ∨ IsDigit d ∨ d = '_' := by
  have hempty : name ≠ "" := by
    rintro rfl
    cases h
  constructor
  · rintro ⟨-, hchars, hhead⟩
    rw [h, List.forall_mem_cons] at hchars
    obtain ⟨hletter | hdigit | hunderscore, hcs⟩ := hchars
    · exact ⟨.inl hletter, hcs⟩
    · rw [h] at hhead
      exact absurd hdigit (hhead c rfl)
    · exact ⟨.inr hunderscore, hcs⟩
  · rintro ⟨hc, hcs⟩
    refine ⟨hempty, ?_, ?_⟩
    · rw [h, List.forall_mem_cons]
      exact ⟨hc.imp_right .inr, hcs⟩
    · rw [h]
      rintro _ ⟨⟩
      rcases hc with hletter | rfl
      · exact hletter.not_isDigit
      · exact not_isDigit_underscore

/-- The check of names decides which are valid. -/
theorem isValidName_iff {name : String} : isValidName name = true ↔ ValidName name := by
  have hfirst : ∀ c : Char, (c.isAlpha || c == '_') = true ↔ IsLetter c ∨ c = '_' := by
    intro c
    rw [Bool.or_eq_true, isAlpha_iff, beq_iff_eq]
  have hchar : ∀ c : Char, (c.isAlphanum || c == '_') = true ↔ IsLetter c ∨ IsDigit c ∨ c = '_' := by
    intro c
    rw [Bool.or_eq_true, Char.isAlphanum, Bool.or_eq_true, isAlpha_iff, isDigit_iff, beq_iff_eq, or_assoc]
  unfold isValidName
  split
  next hnil =>
    have hempty : name = "" := by rwa [← String.toList_inj, String.toList_empty]
    exact ⟨nofun, fun h => absurd hempty h.ne_empty⟩
  next c cs hcons =>
    rw [validName_iff_of_cons hcons, Bool.and_eq_true, hfirst, List.all_eq_true]
    simp only [hchar]

/-! ## Documents -/

theorem NodesDocument.check_eq_ok_iff_valid {doc : NodesDocument} :
    doc.check = .ok () ↔ (∀ name ∈ doc.names, ValidName name) ∧ doc.names.Nodup ∧ doc.flows ≠ [] := by
  rw [check_eq_ok_iff, ← map_fst_declaredNames, List.forall_mem_map]
  simp only [isValidName_iff]

/-- Among definitions of different names, one of a name is the only one. -/
theorem filter_name_eq_singleton_iff {ds : List FlowDefinition} (h : (ds.map (·.name)).Nodup) {name : String}
    {d : FlowDefinition} : ds.filter (fun d => d.name == name) = [d] ↔ d ∈ ds ∧ d.name = name := by
  constructor
  · intro heq
    have hmem : d ∈ ds.filter fun d => d.name == name := heq ▸ List.mem_singleton_self d
    obtain ⟨hmem, hname⟩ := List.mem_filter.1 hmem
    exact ⟨hmem, by simpa using hname⟩
  · rintro ⟨hmem, rfl⟩
    obtain ⟨before, after, rfl⟩ := List.append_of_mem hmem
    rw [List.map_append, List.map_cons, List.nodup_middle, List.nodup_cons, List.mem_append, not_or] at h
    obtain ⟨⟨hbefore, hafter⟩, -⟩ := h
    have hnone : ∀ ds : List FlowDefinition, d.name ∉ ds.map (·.name) →
        ds.filter (fun d' => d'.name == d.name) = [] := by
      intro ds hnot
      rw [List.filter_eq_nil_iff]
      intro d' hd' hname
      exact hnot (List.mem_map.2 ⟨d', hd', by simpa using hname⟩)
    rw [List.filter_append, hnone before hbefore, List.nil_append, List.filter_cons, hnone after hafter,
      beq_self_eq_true, if_pos rfl]

namespace Documents

variable {docs : Documents} {config : Configuration}

/-- Documents that declare and define what belongs together. -/
structure Sound (docs : Documents) : Prop where
  valid_names : ∀ name ∈ docs.nodes.names, ValidName name
  nodup_names : docs.nodes.names.Nodup
  flows_ne_nil : docs.nodes.flows ≠ []
  nodup_definitions : (docs.definitions.map (·.name)).Nodup
  mem_definitions_iff : ∀ name, name ∈ docs.definitions.map (·.name) ↔ name ∈ docs.nodes.flows

/-- A definition is the only one of its name. -/
def DefinedOnce (docs : Documents) (name : String) (d : FlowDefinition) : Prop :=
  docs.definitions.filter (fun d => d.name == name) = [d]

theorem Sound.definedOnce_iff (h : docs.Sound) {name : String} {d : FlowDefinition} :
    docs.DefinedOnce name d ↔ d ∈ docs.definitions ∧ d.name = name :=
  filter_name_eq_singleton_iff h.nodup_definitions

theorem Sound.exists_definitions (h : docs.Sound) :
    ∃ definitions, List.Forall₂ docs.DefinedOnce docs.nodes.flows definitions := by
  refine exists_forall₂_iff.2 fun name hname => ?_
  obtain ⟨d, hd, rfl⟩ := List.mem_map.1 ((h.mem_definitions_iff name).2 hname)
  exact ⟨d, h.definedOnce_iff.2 ⟨hd, rfl⟩⟩

theorem sound_of_configuration (h : docs.configuration = .ok config) : docs.Sound := by
  obtain ⟨hcheck, hnodup, hdeclared, -, hdefinitions⟩ := configuration_eq_ok_iff.1 h
  obtain ⟨hvalid, hnames, hflows⟩ := NodesDocument.check_eq_ok_iff_valid.1 hcheck
  refine ⟨hvalid, hnames, hflows, hnodup, fun name => ⟨fun hname => ?_, fun hname => ?_⟩⟩
  · obtain ⟨d, hd, rfl⟩ := List.mem_map.1 hname
    exact hdeclared d hd
  · obtain ⟨d, hd, rfl⟩ := exists_forall₂_iff.1 ⟨_, hdefinitions⟩ name hname
    exact List.mem_map_of_mem hd

/-- Sound documents are a configuration of the one definition of each flow. -/
theorem Sound.configuration_eq_ok_iff (h : docs.Sound) :
    docs.configuration = .ok config ↔
      config.nodes = docs.nodes ∧ List.Forall₂ docs.DefinedOnce docs.nodes.flows config.definitions := by
  have hcheck : docs.nodes.check = .ok () :=
    NodesDocument.check_eq_ok_iff_valid.2 ⟨h.valid_names, h.nodup_names, h.flows_ne_nil⟩
  have hdeclared : ∀ d ∈ docs.definitions, d.name ∈ docs.nodes.flows :=
    fun d hd => (h.mem_definitions_iff d.name).1 (List.mem_map_of_mem hd)
  rw [Documents.configuration_eq_ok_iff]
  constructor
  · rintro ⟨-, -, -, hnodes, hdefinitions⟩
    exact ⟨hnodes, hdefinitions.imp fun name d hd => h.definedOnce_iff.2 hd⟩
  · rintro ⟨hnodes, hdefinitions⟩
    exact ⟨hcheck, h.nodup_definitions, hdeclared, hnodes,
      hdefinitions.imp fun name d hd => h.definedOnce_iff.1 hd⟩

/-- **Just the sound documents are accepted**, as the nodes document and the one definition of each flow. -/
theorem check_accepts_sound :
    ((∃ config, docs.check.result = .ok config) ↔ docs.Sound) ∧
      ∀ config, docs.check.result = .ok config ↔
        docs.Sound ∧ config.nodes = docs.nodes ∧
          List.Forall₂ docs.DefinedOnce docs.nodes.flows config.definitions := by
  have haccepts : ∀ config, docs.check.result = .ok config ↔
      docs.Sound ∧ config.nodes = docs.nodes ∧
        List.Forall₂ docs.DefinedOnce docs.nodes.flows config.definitions := by
    intro config
    rw [check_eq_ok_iff]
    constructor
    · intro h
      have hsound := sound_of_configuration h
      exact ⟨hsound, hsound.configuration_eq_ok_iff.1 h⟩
    · rintro ⟨hsound, h⟩
      exact hsound.configuration_eq_ok_iff.2 h
  refine ⟨⟨?_, fun hsound => ?_⟩, haccepts⟩
  · rintro ⟨config, hconfig⟩
    exact ((haccepts config).1 hconfig).1
  · obtain ⟨definitions, hdefinitions⟩ := hsound.exists_definitions
    exact ⟨⟨docs.nodes, definitions⟩, (haccepts _).2 ⟨hsound, rfl, hdefinitions⟩⟩

end Documents

end TaskFlow
