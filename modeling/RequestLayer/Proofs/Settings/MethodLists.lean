import RequestLayer.Command.Run
import RequestLayer.Proofs.Settings.Construction
import RequestLayer.Proofs.Text.Lines

set_option autoImplicit false

namespace RequestLayer

theorem name_character_solid (c : Char) (character : NameCharacter c) :
    Text.isBlank c = false := by
  have code (low high : Char) (within : low ≤ c ∧ c ≤ high) :
      low.toNat ≤ c.toNat ∧ c.toNat ≤ high.toNat := within
  have printed : 0x21 ≤ c.toNat ∧ c.toNat ≤ 0x7e := by
    rcases character with lower | upper | digit | rfl
    · have := code _ _ lower
      exact ⟨Nat.le_trans (by decide) this.1, Nat.le_trans this.2 (by decide)⟩
    · have := code _ _ upper
      exact ⟨Nat.le_trans (by decide) this.1, Nat.le_trans this.2 (by decide)⟩
    · have := code _ _ digit
      exact ⟨Nat.le_trans (by decide) this.1, Nat.le_trans this.2 (by decide)⟩
    · decide
  simp only [Text.isBlank, Text.whiteSpace, CodeRanges.has, List.any_cons, List.any_nil]
  simp
  omega

def FileContents.ofText (text : String) : FileContents := .bytes text.toUTF8

theorem FileContents.text_of_text (text : String) : (ofText text).text = .ok text := by
  have decoded : String.fromUTF8? text.toUTF8 = some text := dif_pos text.isValidUTF8
  rw [ofText, FileContents.text, decoded]

namespace AllowList

def trimmed (line : List Char) : String := String.ofList (Text.trim line)

def Silent (line : List Char) : Prop :=
  Text.trim line = [] ∨ (Text.trim line).head? = some '#'

def Fit (line : List Char) : Prop := Silent line ∨ NamesMethod (trimmed line)

theorem name_spoken (line : List Char) (names : NamesMethod (trimmed line)) : ¬ Silent line := by
  obtain ⟨some, characters, _⟩ := names
  rintro (empty | comment)
  · exact some (congrArg String.ofList empty)
  · obtain ⟨rest, same⟩ := List.head?_eq_some_iff.mp comment
    have mark : NameCharacter '#' := characters '#' (by simp [trimmed, same])
    revert mark
    unfold NameCharacter
    decide

theorem silent_line (line : List Char) (silent : Silent line) : Line.ofText line = .silent := by
  apply if_pos
  rcases silent with empty | comment
  · simp [empty]
  · simp [comment]

theorem spoken_line (line : List Char) (spoken : ¬ Silent line) :
    Line.ofText line = if isMethodName (trimmed line) then .method (trimmed line)
      else .invalid (trimmed line) := by
  apply if_neg
  intro said
  rcases Bool.or_eq_true_iff.mp said with empty | comment
  · exact spoken (.inl (List.isEmpty_iff.mp empty))
  · exact spoken (.inr (beq_iff_eq.mp comment))

theorem method_line (line : List Char) (names : NamesMethod (trimmed line)) :
    Line.ofText line = .method (trimmed line) := by
  rw [spoken_line line (name_spoken line names), if_pos ((method_name_iff _).mpr names)]

theorem unfit_line (line : List Char) (unfit : ¬ Fit line) :
    Line.ofText line = .invalid (trimmed line) := by
  have unnamed : ¬ isMethodName (trimmed line) = true :=
    fun names => unfit (.inr ((method_name_iff _).mp names))
  rw [spoken_line line fun silent => unfit (.inl silent), if_neg unnamed]

theorem fit_methods (lines : List (List Char)) (fit : ∀ line ∈ lines, Fit line) (number : Nat) :
    methodsFrom number (lines.map Line.ofText) =
      .ok ((lines.map trimmed).filter isMethodName) := by
  induction lines generalizing number with
  | nil => rfl
  | cons line rest ih =>
      have following := ih (fun other member => fit other (List.mem_cons_of_mem line member))
        (number + 1)
      rw [List.map_cons, List.map_cons]
      by_cases names : NamesMethod (trimmed line)
      · rw [method_line line names, methodsFrom, following,
          List.filter_cons_of_pos ((method_name_iff _).mpr names)]
        rfl
      · have silent := (fit line List.mem_cons_self).resolve_right names
        rw [silent_line line silent, methodsFrom, following,
          List.filter_cons_of_neg (mt (method_name_iff _).mp names)]

theorem unfit_methods (before : List (List Char)) (line : List Char) (after : List (List Char))
    (fit : ∀ earlier ∈ before, Fit earlier) (unfit : ¬ Fit line) (number : Nat) :
    methodsFrom number ((before ++ line :: after).map Line.ofText) =
      .error [.message s!"Invalid method name on line {before.length + number}: {trimmed line}"] := by
  induction before generalizing number with
  | nil => rw [List.nil_append, List.map_cons, unfit_line line unfit, methodsFrom, List.length_nil,
      Nat.zero_add]
  | cons first rest ih =>
      have following := ih (fun other member => fit other (List.mem_cons_of_mem first member))
        (number + 1)
      rw [← Nat.add_assoc, Nat.add_right_comm] at following
      rw [List.cons_append, List.map_cons, List.length_cons]
      by_cases names : NamesMethod (trimmed first)
      · rw [method_line first names, methodsFrom, following]
        rfl
      · have silent := (fit first List.mem_cons_self).resolve_right names
        rw [silent_line first silent, methodsFrom, following]

theorem fit_or_unfit (lines : List (List Char)) : (∀ line ∈ lines, Fit line) ∨
    ∃ before line after, lines = before ++ line :: after ∧ (∀ earlier ∈ before, Fit earlier) ∧
      ¬ Fit line := by
  induction lines with
  | nil => exact .inl nofun
  | cons first rest ih =>
      by_cases fit : Fit first
      · rcases ih with all | ⟨before, line, after, rfl, early, unfit⟩
        · exact .inl (List.forall_mem_cons.mpr ⟨fit, all⟩)
        · exact .inr ⟨first :: before, line, after, rfl, List.forall_mem_cons.mpr ⟨fit, early⟩, unfit⟩
      · exact .inr ⟨[], first, rest, rfl, nofun, fit⟩

theorem rows_read (text : List Char) :
    (Text.lines text).map Line.ofText = (Text.rows text).map Line.ofText := by
  rw [Text.rows, Text.pieces_lines, List.map_map]
  apply List.map_congr_left
  intro line _
  simp only [Function.comp_apply, Line.ofText, Text.trim_without_return]

theorem load_text (name text : String) : load name (.ofText text) =
    (methodsFrom 1 ((Text.rows text.toList).map Line.ofText)).bind fun methods =>
      if methods = [] then .error [.message "Allow-list is empty (no method names found)"]
      else .ok methods := by
  unfold load readFile read
  rw [FileContents.text_of_text, ← rows_read]
  change (methodsFrom 1 _).bind _ = _
  congr 1
  funext methods
  cases methods <;> rfl

theorem load_unfit (name text : String) (before : List (List Char)) (line : List Char)
    (after : List (List Char)) (rows : Text.rows text.toList = before ++ line :: after)
    (fit : ∀ earlier ∈ before, Fit earlier) (unfit : ¬ Fit line) :
    load name (.ofText text) = .error
      [.message s!"Invalid method name on line {before.length + 1}: {trimmed line}"] := by
  rw [load_text, rows, unfit_methods before line after fit unfit]
  rfl

theorem load_fit (name text : String) (fit : ∀ line ∈ Text.rows text.toList, Fit line) :
    load name (.ofText text) =
      if ((Text.rows text.toList).map trimmed).filter isMethodName = [] then
        .error [.message "Allow-list is empty (no method names found)"]
      else .ok (((Text.rows text.toList).map trimmed).filter isMethodName) := by
  rw [load_text, fit_methods _ fit]
  rfl

theorem named_iff (lines : List (List Char)) :
    (lines.map trimmed).filter isMethodName ≠ [] ↔ ∃ line ∈ lines, NamesMethod (trimmed line) := by
  simp only [ne_eq, List.filter_eq_nil_iff, List.forall_mem_map, not_forall, not_not,
    method_name_iff, exists_prop]

theorem load_silent (name text : String) (silent : ∀ line ∈ Text.rows text.toList, Silent line) :
    load name (.ofText text) =
      .error [.message "Allow-list is empty (no method names found)"] := by
  rw [load_fit name text fun line member => .inl (silent line member), if_pos]
  by_contra some
  obtain ⟨line, member, names⟩ := (named_iff _).mp some
  exact name_spoken line names (silent line member)

theorem load_iff (name text : String) (methods : List String) :
    load name (.ofText text) = .ok methods ↔
      (∀ line ∈ Text.rows text.toList, Fit line) ∧
      (∃ line ∈ Text.rows text.toList, NamesMethod (trimmed line)) ∧
      methods = ((Text.rows text.toList).map trimmed).filter isMethodName := by
  rcases fit_or_unfit (Text.rows text.toList) with fit | ⟨before, line, after, rows, early, unfit⟩
  · rw [load_fit name text fit, ← named_iff]
    by_cases none : ((Text.rows text.toList).map trimmed).filter isMethodName = []
    · rw [if_pos none]
      exact ⟨nofun, fun ⟨_, named, _⟩ => (named none).elim⟩
    · rw [if_neg none]
      exact ⟨fun | rfl => ⟨fit, none, rfl⟩, fun ⟨_, _, same⟩ => same ▸ rfl⟩
  · rw [load_unfit name text before line after rows early unfit]
    refine ⟨nofun, fun ⟨all, _⟩ => (unfit (all line ?_)).elim⟩
    rw [rows]
    exact List.mem_append_right before List.mem_cons_self

-- What a line carries: nothing, or a name with blanks around it.
inductive Carries : List Char → List String → Prop
  | blank (line : List Char) (blanks : Text.Blanks line) : Carries line []
  | comment (before rest : List Char) (left : Text.Blanks before) :
      Carries (before ++ '#' :: rest) []
  | method (before after : List Char) (name : String) (left : Text.Blanks before)
      (right : Text.Blanks after) (names : NamesMethod name) :
      Carries (before ++ name.toList ++ after) [name]

-- Lines with either ending, the last of which may lack it.
inductive Lists : List Char → List String → Prop
  | none : Lists [] []
  | last (line : List Char) (names : List String) (unbroken : '\n' ∉ line)
      (content : Carries line names) : Lists line names
  | more (line ending rest : List Char) (names others : List String) (unbroken : '\n' ∉ line)
      (ends : ending = ['\n'] ∨ ending = ['\r', '\n']) (content : Carries line names)
      (following : Lists rest others) : Lists (line ++ ending ++ rest) (names ++ others)

theorem name_trimmed (before after : List Char) (name : String) (left : Text.Blanks before)
    (right : Text.Blanks after) (names : NamesMethod name) :
    Text.trim (before ++ name.toList ++ after) = name.toList := by
  have solid (c : Char) (member : c ∈ name.toList) : Text.isBlank c = false :=
    name_character_solid c (names.2.1 c member)
  exact Text.trim_surrounded before _ after left right
    (fun c first => solid c (List.mem_of_mem_head? first))
    (fun c last => solid c (List.mem_of_getLast? last))

theorem silent_carries (line : List Char) (silent : Silent line) : Carries line [] := by
  obtain ⟨before, after, around, left, right⟩ := (Text.trimmed_trim line).around
  rcases silent with empty | comment
  · rw [around, empty, List.append_nil]
    exact .blank _ (List.forall_mem_append.mpr ⟨left, right⟩)
  · obtain ⟨rest, same⟩ := List.head?_eq_some_iff.mp comment
    rw [around, same, List.append_assoc]
    exact .comment before (rest ++ after) left

theorem method_carries (line : List Char) (names : NamesMethod (trimmed line)) :
    Carries line [trimmed line] := by
  obtain ⟨before, after, around, left, right⟩ := (Text.trimmed_trim line).around
  have content := Carries.method before after (trimmed line) left right names
  rw [trimmed, String.toList_ofList, ← around] at content
  exact content

theorem carries_iff (line : List Char) (names : List String) : Carries line names ↔
    Silent line ∧ names = [] ∨ NamesMethod (trimmed line) ∧ names = [trimmed line] := by
  constructor
  · intro content
    cases content with
    | blank line blanks => exact .inl ⟨.inl (Text.trim_blanks line blanks), rfl⟩
    | comment before rest left =>
        have first := Text.trim_first '#' rest rfl
        rw [← Text.trim_after before _ left] at first
        exact .inl ⟨.inr first, rfl⟩
    | method before after name left right named =>
        have same : trimmed (before ++ name.toList ++ after) = name := by
          rw [trimmed, name_trimmed before after name left right named, String.ofList_toList]
        exact .inr ⟨same.symm ▸ named, congrArg (fun name => [name]) same.symm⟩
  · rintro (⟨silent, rfl⟩ | ⟨named, rfl⟩)
    · exact silent_carries line silent
    · exact method_carries line named

theorem first_line (line : List Char) (rest : List Line) (number : Nat) (names : List String) :
    methodsFrom number (Line.ofText line :: rest) = .ok names ↔ ∃ first others,
      Carries line first ∧ methodsFrom (number + 1) rest = .ok others ∧
        names = first ++ others := by
  simp only [carries_iff]
  by_cases silent : Silent line
  · have unnamed : ¬ NamesMethod (trimmed line) := fun named => name_spoken line named silent
    rw [silent_line line silent, methodsFrom]
    constructor
    · exact fun following => ⟨[], names, .inl ⟨silent, rfl⟩, following, rfl⟩
    · rintro ⟨_, others, ⟨_, rfl⟩ | ⟨named, _⟩, following, rfl⟩
      · exact following
      · exact (unnamed named).elim
  · by_cases named : NamesMethod (trimmed line)
    · rw [method_line line named, methodsFrom]
      constructor
      · intro read
        obtain ⟨others, following, same⟩ := (bind_ok _ _ names).mp read
        cases same
        exact ⟨[trimmed line], others, .inr ⟨named, rfl⟩, following, rfl⟩
      · rintro ⟨_, others, ⟨quiet, _⟩ | ⟨_, rfl⟩, following, rfl⟩
        · exact (silent quiet).elim
        · rw [following]
          rfl
    · rw [unfit_line line (not_or.mpr ⟨silent, named⟩), methodsFrom]
      refine ⟨nofun, ?_⟩
      rintro ⟨_, others, ⟨quiet, _⟩ | ⟨called, _⟩, _⟩
      · exact (silent quiet).elim
      · exact (named called).elim

theorem ended_line (line ending rest : List Char) (unbroken : '\n' ∉ line)
    (ends : ending = ['\n'] ∨ ending = ['\r', '\n']) :
    (Text.lines (line ++ ending ++ rest)).map Line.ofText =
      Line.ofText line :: (Text.lines rest).map Line.ofText := by
  rcases ends with rfl | rfl
  · rw [List.append_assoc, List.singleton_append, Text.lines_more line rest unbroken, List.map_cons]
  · have whole : line ++ ['\r', '\n'] ++ rest = (line ++ ['\r']) ++ '\n' :: rest := by simp
    have returned : '\n' ∉ line ++ ['\r'] := by simp [unbroken]
    rw [whole, Text.lines_more _ rest returned, List.map_cons, Line.ofText,
      Text.trim_before line _ Text.return_blank]
    rfl

theorem lists_iff (text : List Char) (names : List String) (number : Nat) :
    methodsFrom number ((Text.lines text).map Line.ofText) = .ok names ↔ Lists text names := by
  constructor
  · intro read
    induction text using Text.lines_induction generalizing number names with
    | none =>
        rw [Text.lines, if_pos rfl] at read
        cases read
        exact .none
    | last line some unbroken =>
        rw [Text.lines_last line some unbroken] at read
        obtain ⟨first, others, content, following, rfl⟩ := (first_line line [] number names).mp read
        cases following
        rw [List.append_nil]
        exact .last line first unbroken content
    | more line rest unbroken ih =>
        rw [Text.lines_more line rest unbroken] at read
        obtain ⟨first, others, content, following, rfl⟩ := (first_line line _ number names).mp read
        rw [List.append_cons]
        exact .more line ['\n'] rest first others unbroken (.inl rfl) content
          (ih others (number + 1) following)
  · intro listed
    induction listed generalizing number with
    | none =>
        rw [Text.lines, if_pos rfl]
        rfl
    | last line names unbroken content =>
        by_cases empty : line = []
        · subst empty
          rw [Text.lines, if_pos rfl]
          rcases (carries_iff [] names).mp content with ⟨_, rfl⟩ | ⟨named, _⟩
          · rfl
          · exact (name_spoken [] named (.inl rfl)).elim
        · rw [Text.lines_last line empty unbroken]
          exact (first_line line [] number names).mpr
            ⟨names, [], content, rfl, (List.append_nil names).symm⟩
    | more line ending rest names others unbroken ends content following ih =>
        rw [ended_line line ending rest unbroken ends]
        exact (first_line line _ number _).mpr ⟨names, others, content, ih (number + 1), rfl⟩

theorem load_lists (name text : String) (methods : List String) :
    load name (.ofText text) = .ok methods ↔ methods ≠ [] ∧ Lists text.toList methods := by
  rw [load_text, ← rows_read, bind_ok]
  simp only [← lists_iff text.toList _ 1]
  constructor
  · rintro ⟨read, listed, kept⟩
    by_cases empty : read = []
    · rw [if_pos empty] at kept
      cases kept
    · rw [if_neg empty] at kept
      cases kept
      exact ⟨empty, listed⟩
  · rintro ⟨some, listed⟩
    exact ⟨methods, listed, if_neg some⟩

theorem load_names (name : String) (file : FileContents) (methods : List String)
    (loaded : load name file = .ok methods) : ∀ method ∈ methods, NamesMethod method := by
  cases contents : file.text with
  | error reason =>
      rw [load, readFile, contents] at loaded
      cases loaded
  | ok text =>
      have same : load name file = load name (.ofText text) := by
        rw [load, readFile, contents, load, readFile, FileContents.text_of_text]
      rw [same] at loaded
      obtain ⟨_, _, rfl⟩ := (load_iff name text methods).mp loaded
      intro method member
      exact (method_name_iff method).mp (List.mem_filter.mp member).2

end AllowList

namespace Settings

theorem default_valid : ({} : Settings).validate = .ok () :=
  (validate_iff _).mpr ⟨nofun, nofun, nofun, by decide, by decide, nofun⟩

theorem load_valid (name : String) (file : FileContents) (settings : Settings)
    (loaded : Settings.load name file = .ok settings) : settings.validate = .ok () := by
  obtain ⟨text, _, loaded⟩ := (bind_ok _ _ settings).mp loaded
  obtain ⟨given, _, loaded⟩ := (bind_ok _ _ settings).mp loaded
  obtain ⟨_, checked, same⟩ := (bind_ok _ _ settings).mp loaded
  cases same
  cases valid : settings.validate with
  | ok => rfl
  | error fault =>
      rw [valid] at checked
      cases checked

theorem allowed_more (settings : Settings) (methods : List String)
    (valid : settings.validate = .ok ()) (named : ∀ method ∈ methods, NamesMethod method) :
    ({ settings with allowed := settings.allowed ++ methods } : Settings).validate = .ok () := by
  rw [validate_iff] at valid ⊢
  exact { valid with allowed := List.forall_mem_append.mpr ⟨valid.allowed, named⟩ }

end Settings

namespace Command

variable (arguments : Arguments) (files : String → FileContents)

def configured : Except Chain Settings :=
  match arguments.config with
  | some name => Settings.load name (files name)
  | none => .ok {}

def listed : Except Chain (List String) :=
  match arguments.allowList with
  | some name => AllowList.load name (files name)
  | none => .ok []

theorem configured_valid (base : Settings) (loaded : configured arguments files = .ok base) :
    base.validate = .ok () := by
  unfold configured at loaded
  split at loaded
  · exact Settings.load_valid _ _ base loaded
  · cases loaded
    exact Settings.default_valid

theorem listed_names (methods : List String) (loaded : listed arguments files = .ok methods) :
    ∀ method ∈ methods, NamesMethod method := by
  unfold listed at loaded
  split at loaded
  · exact AllowList.load_names _ _ methods loaded
  · cases loaded
    exact nofun

theorem settings_merged : settings arguments files =
    (configured arguments files).bind fun base => (listed arguments files).bind fun methods =>
      .ok { base with allowed := base.allowed ++ methods } := by
  have checked : settings arguments files =
      (configured arguments files).bind fun base => (listed arguments files).bind fun methods =>
        (({ base with allowed := base.allowed ++ methods } : Settings).validate.mapError fun fault =>
          [Link.message "Invalid client configuration", .failed fault]).bind fun _ =>
            .ok { base with allowed := base.allowed ++ methods } := by
    unfold settings configured listed
    cases arguments.config <;> cases arguments.allowList <;> rfl
  rw [checked]
  cases loaded : configured arguments files with
  | error chain => rfl
  | ok base =>
      cases named : listed arguments files with
      | error chain => rfl
      | ok methods =>
          have valid := base.allowed_more methods (configured_valid arguments files base loaded)
            (listed_names arguments files methods named)
          simp only [Except.bind, valid]
          rfl

end Command

namespace AllowList

theorem allow_lists_exact :
    (∀ name text methods, load name (.ofText text) = .ok methods ↔
      (∀ line ∈ Text.rows text.toList, Silent line ∨ NamesMethod (trimmed line)) ∧
      (∃ line ∈ Text.rows text.toList, NamesMethod (trimmed line)) ∧
      methods = ((Text.rows text.toList).map trimmed).filter isMethodName) ∧
    (∀ name text before line after, Text.rows text.toList = before ++ line :: after →
      (∀ earlier ∈ before, Silent earlier ∨ NamesMethod (trimmed earlier)) →
      ¬ (Silent line ∨ NamesMethod (trimmed line)) →
      load name (.ofText text) = .error
        [.message s!"Invalid method name on line {before.length + 1}: {trimmed line}"]) ∧
    (∀ name text, (∀ line ∈ Text.rows text.toList, Silent line) →
      load name (.ofText text) =
        .error [.message "Allow-list is empty (no method names found)"]) ∧
    (∀ line core, Text.trim line = core ↔ Text.Trimmed line core) ∧
    (∀ (settings : Settings) (name : String) (file : FileContents) (methods : List String),
      settings.validate = .ok () → load name file = .ok methods →
      ({ settings with allowed := settings.allowed ++ methods } : Settings).validate = .ok ()) ∧
    (∀ arguments files, Command.settings arguments files =
      (Command.configured arguments files).bind fun base =>
        (Command.listed arguments files).bind fun methods =>
          .ok { base with allowed := base.allowed ++ methods }) ∧
    ∀ name text methods, load name (.ofText text) = .ok methods ↔
      methods ≠ [] ∧ Lists text.toList methods :=
  ⟨load_iff, load_unfit, load_silent, Text.trim_iff,
    fun settings name file methods valid loaded =>
      settings.allowed_more methods valid (load_names name file methods loaded),
    Command.settings_merged, load_lists⟩

theorem allow_lists_exact_commented :
    load "methods" (.ofText "# state\r\n\n eth_call\nnet_version") =
      .ok ["eth_call", "net_version"] := by
  have named (name : String) (valid : isMethodName name = true) : NamesMethod name :=
    (method_name_iff name).mp valid
  have space : Text.Blanks [' '] := List.forall_mem_singleton.mpr rfl
  have call := Carries.method [' '] [] "eth_call" space nofun (named _ (by decide))
  have version := Carries.method [] [] "net_version" nofun nofun (named _ (by decide))
  have comment := Carries.comment [] [' ', 's', 't', 'a', 't', 'e'] nofun
  have methods := Lists.more _ ['\n'] _ _ _ (by decide) (.inl rfl) call
    (.last _ _ (by decide) version)
  have lines := Lists.more _ ['\r', '\n'] _ _ _ (by decide) (.inr rfl) comment
    (.more [] ['\n'] _ _ _ nofun (.inl rfl) (.blank [] nofun) methods)
  exact (allow_lists_exact.2.2.2.2.2.2 _ _ _).mpr ⟨nofun, lines⟩

end AllowList

end RequestLayer
