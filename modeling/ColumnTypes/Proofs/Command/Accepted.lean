import ColumnTypes.Command.Manuals
import ColumnTypes.Proofs.Command.Arguments

/-!
# What accepted arguments hold

A request that is read off arguments, however they are spelled, holds nothing but options of the
command with values that pass their check (`Usage.of_read_eq_run`).  So the driver that is named is
one that can be chosen (`exists_driver_of_read`), and only `--help` itself asks a command for help
(`mem_of_read_eq_question`).

## Strategy

What holds of every option that a single argument can bring holds of every option that is scanned
(`Usage.forall_options_of_scan`); which options these are is told of one argument
(`Usage.forall_options_of_readOption`).
-/

namespace ColumnTypes.Command

/-- The options that an argument brings. -/
def OptionArgument.options : OptionArgument → List OptionSpec
  | complete given => given.map Prod.fst
  | needsValue given option _ => given.map Prod.fst ++ [option]

variable {u : Usage} {arguments operands : List String} {given : List Given}
  {isPresent : String → Bool}

namespace Usage

/-! ## Single arguments -/

/-- An option is found among those of the usage. -/
theorem mem_options_of_option? {name : String} {o : OptionSpec} (h : u.option? name = some o) :
    o ∈ u.options ∧ name ∈ o.names := by
  refine ⟨List.mem_of_find?_eq_some h, ?_⟩
  simpa using List.find?_some h

/-- Short names bring options that have a name of a dash and a character. -/
theorem forall_options_of_readShort {cs : List Char} {r : OptionArgument}
    (h : u.readShort cs = .ok r) :
    ∀ o ∈ r.options, o ∈ u.options ∧ ∃ c, String.ofList ['-', c] ∈ o.names := by
  induction cs generalizing r with
  | nil =>
      obtain rfl := Except.ok.inj h
      simp [OptionArgument.options]
  | cons c rest ih =>
      unfold readShort at h
      dsimp only at h
      cases hoption : u.option? (String.ofList ['-', c]) with
      | none =>
          rw [hoption] at h
          exact nomatch h
      | some o =>
          obtain ⟨hmem, hname⟩ := mem_options_of_option? hoption
          have hfirst : o ∈ u.options ∧ ∃ c, String.ofList ['-', c] ∈ o.names := ⟨hmem, c, hname⟩
          rw [hoption] at h
          dsimp only at h
          split_ifs at h
          · obtain rfl := Except.ok.inj h
            simpa [OptionArgument.options] using hfirst
          · obtain rfl := Except.ok.inj h
            simpa [OptionArgument.options] using hfirst
          · split at h
            · next hrest =>
              obtain rfl := Except.ok.inj h
              exact List.forall_mem_cons.2 ⟨hfirst, ih hrest⟩
            · next hrest =>
              obtain rfl := Except.ok.inj h
              exact List.forall_mem_cons.2 ⟨hfirst, ih hrest⟩
            · exact nomatch h

/-- An argument brings one option under its long name, or options under their short names.  One
that takes no value is named by the whole argument. -/
theorem forall_options_of_readOption {argument : String} {r : OptionArgument}
    (h : u.readOption argument = .ok r) :
    ∀ o ∈ r.options, o ∈ u.options ∧
      (o.takesValue = true ∨ argument ∈ o.names ∨ ∃ c, String.ofList ['-', c] ∈ o.names) := by
  have hshort : u.readShort argument.toList.tail = .ok r → ∀ o ∈ r.options, o ∈ u.options ∧
      (o.takesValue = true ∨ argument ∈ o.names ∨ ∃ c, String.ofList ['-', c] ∈ o.names) := by
    intro h o ho
    obtain ⟨hmem, hname⟩ := forall_options_of_readShort h o ho
    exact ⟨hmem, .inr (.inr hname)⟩
  unfold readOption at h
  dsimp only at h
  split at h
  · next o hlong =>
    split_ifs at hlong
    obtain ⟨hmem, hname⟩ := mem_options_of_option? hlong
    split at h
    · next htakes _ =>
      obtain rfl := Except.ok.inj h
      simpa [OptionArgument.options] using ⟨hmem, .inl htakes⟩
    · next htakes _ =>
      obtain rfl := Except.ok.inj h
      simpa [OptionArgument.options] using ⟨hmem, .inl htakes⟩
    · exact nomatch h
    · next hvalue =>
      obtain rfl := Except.ok.inj h
      -- Without an equals sign the name is all of the argument.
      have hall : argument.toList.takeWhile (· != '=') = argument.toList := by
        cases hdrop : argument.toList.dropWhile (· != '=') with
        | nil =>
            have hparts : argument.toList.takeWhile (· != '=') ++
                argument.toList.dropWhile (· != '=') = argument.toList :=
              List.takeWhile_append_dropWhile
            rwa [hdrop, List.append_nil] at hparts
        | cons c rest =>
            rw [hdrop] at hvalue
            exact nomatch hvalue
      rw [hall, String.ofList_toList] at hname
      simpa [OptionArgument.options] using ⟨hmem, .inr (.inl hname)⟩
  · split_ifs at h
    exact hshort h

/-! ## Scanning -/

/-- A scan that goes on with the rest of the arguments. -/
theorem exists_scan_of_map {f : Scanned → Scanned} {scanned : Scanned}
    (h : (u.scan arguments).map f = .ok scanned) :
    ∃ rest, u.scan arguments = .ok rest ∧ f rest = scanned := by
  cases hscan : u.scan arguments with
  | error e =>
      rw [hscan] at h
      exact nomatch h
  | ok rest =>
      rw [hscan] at h
      exact ⟨rest, rfl, Except.ok.inj h⟩

/-- What holds of the options that the arguments bring holds of those that are scanned. -/
theorem forall_options_of_scan {P : OptionSpec → Prop} {scanned : Scanned}
    (hread : ∀ argument ∈ arguments, ∀ r, u.readOption argument = .ok r → ∀ o ∈ r.options, P o)
    (h : u.scan arguments = .ok scanned) : ∀ g ∈ scanned.given, P g.1 := by
  fun_induction scan u arguments generalizing scanned with
  | case1 | case2 | case8 =>
      obtain rfl := Except.ok.inj h
      simp
  | case3 | case5 => exact nomatch h
  | case4 argument rest hdashes hoption options hargument ih =>
      obtain ⟨hfirst, hrest⟩ := List.forall_mem_cons.1 hread
      obtain ⟨after, hafter, rfl⟩ := exists_scan_of_map h
      have hoptions := hfirst _ hargument
      unfold OptionArgument.options at hoptions
      exact List.forall_mem_append.2 ⟨List.forall_mem_map.1 hoptions, ih hrest hafter⟩
  | case6 argument hdashes hoption options o name hargument value rest ih =>
      obtain ⟨hfirst, hrest⟩ := List.forall_mem_cons.1 hread
      obtain ⟨after, hafter, rfl⟩ := exists_scan_of_map h
      have hoptions := hfirst _ hargument
      unfold OptionArgument.options at hoptions
      obtain ⟨hflags, hlast⟩ := List.forall_mem_append.1 hoptions
      refine List.forall_mem_append.2 ⟨List.forall_mem_map.1 hflags, List.forall_mem_cons.2 ?_⟩
      exact ⟨hlast o (.head _), ih (List.forall_mem_cons.1 hrest).2 hafter⟩
  | case7 argument rest hdashes hoption hinterspersed ih =>
      obtain ⟨after, hafter, rfl⟩ := exists_scan_of_map h
      show ∀ g ∈ after.given, P g.1
      exact ih (List.forall_mem_cons.1 hread).2 hafter

/-! ## Requests -/

/-- An option that is put is there, besides those that were. -/
theorem mem_of_mem_put {o : OptionSpec} {value : String} {g : Given} (h : g ∈ put o value given) :
    g = (o, value) ∨ g ∈ given := by
  fun_induction put o value given with
  | case1 => exact .inl (List.mem_singleton.1 h)
  | case2 =>
      rcases List.mem_cons.1 h with rfl | h
      · exact .inl rfl
      · exact .inr (.tail _ h)
  | case3 o' value' rest hne ih =>
      rcases List.mem_cons.1 h with rfl | h
      · exact .inr (.head _)
      · exact (ih h).imp_right (.tail _)

/-- The values that count are values that were given. -/
theorem mem_of_mem_distinct {g : Given} (h : g ∈ distinct given) : g ∈ given := by
  have hfold : ∀ done : List Given,
      g ∈ given.foldl (fun done g => put g.1 g.2 done) done → g ∈ done ∨ g ∈ given := by
    clear h
    induction given with
    | nil => exact fun done h => .inl h
    | cons first given ih =>
        intro done h
        rcases ih _ h with h | h
        · rcases mem_of_mem_put h with rfl | h
          · exact .inr (.head _)
          · exact .inl h
        · exact .inr (.tail _ h)
  exact (hfold [] h).resolve_left List.not_mem_nil

/-- Options that are read are options that are scanned, with values that pass. -/
theorem of_readOptions_eq_run (h : u.readOptions isPresent arguments = .ok (.run given operands)) :
    ∃ scanned, u.scan arguments = .ok scanned ∧ operands = scanned.operands ∧
      ∀ g ∈ given, g ∈ scanned.given ∧ checkValue isPresent g = .ok () := by
  unfold readOptions at h
  obtain ⟨scanned, hscan, h⟩ := bind_eq_ok_iff.1 h
  split at h
  · exact nomatch h
  · obtain ⟨⟨⟩, hcheck, h⟩ := bind_eq_ok_iff.1 h
    obtain ⟨rfl, rfl⟩ := Request.run.inj (Except.ok.inj h)
    exact ⟨scanned, hscan, rfl, fun g hg =>
      ⟨mem_of_mem_distinct hg, forM_eq_ok_iff.1 hcheck g hg⟩⟩

/-- A question that is read is one of the options that are scanned. -/
theorem of_readOptions_eq_question {o : OptionSpec}
    (h : u.readOptions isPresent arguments = .ok (.question o)) :
    o.isQuestion = true ∧ ∃ scanned value, u.scan arguments = .ok scanned ∧
      (o, value) ∈ scanned.given := by
  unfold readOptions at h
  obtain ⟨scanned, hscan, h⟩ := bind_eq_ok_iff.1 h
  split at h
  · next o' value hfind =>
    obtain rfl := Request.question.inj (Except.ok.inj h)
    exact ⟨by simpa using List.find?_some hfind, scanned, value, hscan,
      List.mem_of_find?_eq_some hfind⟩
  · obtain ⟨⟨⟩, -, h⟩ := bind_eq_ok_iff.1 h
    exact nomatch h

/-- A request for a run has the options that have been read, and an operand exactly if there is one
to be given. -/
theorem of_read_eq_run_operands (h : u.read isPresent arguments = .ok (.run given operands)) :
    operands.length = u.operand.toList.length ∧
      ∃ before, u.readOptions isPresent arguments = .ok (.run given before) := by
  unfold read at h
  obtain ⟨request, hoptions, h⟩ := bind_eq_ok_iff.1 h
  cases request with
  | question o => exact nomatch h
  | run given' operands' =>
      dsimp only at h
      split at h
      · next hnone =>
        split_ifs at h
        obtain ⟨rfl, rfl⟩ := Request.run.inj (Except.ok.inj h)
        exact ⟨by rw [hnone]; rfl, _, hoptions⟩
      · next hsome =>
        split at h
        · exact nomatch h
        · split_ifs at h
          obtain ⟨rfl, rfl⟩ := Request.run.inj (Except.ok.inj h)
          exact ⟨by rw [hsome]; rfl, _, hoptions⟩

/-- **An accepted request** has options of the command only, with values that pass, and an operand
exactly if the command has one. -/
theorem of_read_eq_run (h : u.read isPresent arguments = .ok (.run given operands)) :
    (∀ g ∈ given, g.1 ∈ u.options ∧ checkValue isPresent g = .ok ()) ∧
      operands.length = u.operand.toList.length := by
  obtain ⟨hlength, before, hoptions⟩ := of_read_eq_run_operands h
  obtain ⟨scanned, hscan, -, hvalues⟩ := of_readOptions_eq_run hoptions
  have hmem := forall_options_of_scan (P := (· ∈ u.options))
    (fun _ _ _ hread o ho => (forall_options_of_readOption hread o ho).1) hscan
  exact ⟨fun g hg => ⟨hmem g (hvalues g hg).1, (hvalues g hg).2⟩, hlength⟩

/-- A question is one of the options that are scanned. -/
theorem of_read_eq_question {o : OptionSpec} (h : u.read isPresent arguments = .ok (.question o)) :
    o.isQuestion = true ∧ ∃ scanned value, u.scan arguments = .ok scanned ∧
      (o, value) ∈ scanned.given := by
  unfold read at h
  obtain ⟨request, hoptions, h⟩ := bind_eq_ok_iff.1 h
  cases request with
  | question o' =>
      obtain rfl := Request.question.inj (Except.ok.inj h)
      exact of_readOptions_eq_question hoptions
  | run given operands =>
      dsimp only at h
      split at h
      · split_ifs at h
        exact nomatch h
      · split at h
        · exact nomatch h
        · split_ifs at h
          exact nomatch h

end Usage

/-! ## Commands -/

variable {n : Name}

/-- Only an argument that is `--help` asks a command a question. -/
theorem mem_of_read_eq_question {o : OptionSpec}
    (h : n.usage.read isPresent arguments = .ok (.question o)) : "--help" ∈ arguments := by
  obtain ⟨hquestion, scanned, value, hscan, hmem⟩ := Usage.of_read_eq_question h
  have hhelp : ∀ o ∈ n.usage.options, o.isQuestion = true → o = helpOption := by
    cases n <;> decide
  by_contra hnone
  have hall := Usage.forall_options_of_scan (P := fun o => o.isQuestion ≠ true)
    (fun argument hargument r hread o ho hquestion => by
      obtain ⟨hoption, htold⟩ := Usage.forall_options_of_readOption hread o ho
      obtain rfl := hhelp o hoption hquestion
      rcases htold with htakes | hname | ⟨c, hname⟩
      · exact nomatch htakes
      · obtain rfl : argument = "--help" := by simpa [helpOption] using hname
        exact hnone hargument
      · have heq : String.ofList ['-', c] = "--help" := by simpa [helpOption] using hname
        have hlength := congrArg (·.toList.length) heq
        simp at hlength) hscan
  exact hall _ hmem hquestion

/-- A value that counts is given for an option of its name. -/
theorem exists_mem_of_valueOf? {name value : String} (h : valueOf? name given = some value) :
    ∃ o, (o, value) ∈ given ∧ o.name = name := by
  obtain ⟨g, hfind, rfl⟩ := Option.map_eq_some_iff.1 h
  exact ⟨g.1, List.mem_of_find?_eq_some hfind, by simpa using List.find?_some hfind⟩

/-- **A driver that is named** in an accepted request is one that can be chosen. -/
theorem exists_driver_of_read {value : String}
    (h : n.usage.read isPresent arguments = .ok (.run given operands))
    (hvalue : valueOf? "--driver" given = some value) :
    ∃ driver ∈ Driver.choices, driver.name = value := by
  obtain ⟨o, hmem, hname⟩ := exists_mem_of_valueOf? hvalue
  obtain ⟨hoption, hcheck⟩ := (Usage.of_read_eq_run h).1 _ hmem
  have hkind : ∀ o ∈ n.usage.options, o.name = "--driver" →
      o.kind = .choice (Driver.choices.map Driver.name) := by
    cases n <;> decide
  have hchosen := (checkValue_choice_iff (hkind o hoption hname)).1 hcheck
  exact List.mem_map.1 (List.contains_iff_mem.1 hchosen)

/-- **A configuration that is named** in an accepted request is the path of something that exists,
so every command accepts it, together with a driver that can be chosen. -/
theorem accepts_of_read {driver : Option String}
    (h : n.usage.read isPresent arguments = .ok (.run given operands))
    (hdriver : ∀ d ∈ driver, (Driver.choices.map Driver.name).contains d = true) :
    Accepts isPresent (valueOf? "--config" given) driver := by
  refine ⟨fun value hvalue => ?_, hdriver⟩
  obtain ⟨o, hmem, hname⟩ := exists_mem_of_valueOf? hvalue
  obtain ⟨hoption, hcheck⟩ := (Usage.of_read_eq_run h).1 _ hmem
  have hkind : ∀ o ∈ n.usage.options, o.name = "--config" → o.kind = .path := by
    cases n <;> decide
  exact (checkValue_path_iff (hkind o hoption hname)).1 hcheck

end ColumnTypes.Command
