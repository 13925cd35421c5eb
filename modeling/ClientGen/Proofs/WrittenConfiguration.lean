import ClientGen.Proofs.Configuration

/-!
# A configuration written out and read back

`Config.toDocument` writes the options of a run as a mapping under their snake-case names, in
their order and without the command that generated the files. Reading that mapping back with
`Config.ofDocument` gives the same options, the command aside: every written key is its option's
own name, so each value goes to the reader of its option's kind, and the readers give back a
Boolean, an integer and a text unchanged, while the tag filters and the template directory are
kept as given. No option of a document sets the command, so it is the default in every
configuration that reading returns (`ofDocument_commandLine`), and writing such a configuration
out and reading it back gives it again (`toDocument_reads_back`).
-/
namespace ClientGen.Config

/-- No option sets the command. The tag filters and the templates are kept as given, every other
known option binds what its reader gives, and an unknown name changes nothing. -/
theorem set_commandLine {c c' : Config} {name : String} {value : Value}
    (read : c.set name value = .ok c') : c'.commandLine = c.commandLine := by
  unfold set at read
  split at read
  case h_1 | h_2 | h_3 =>
    cases read
    rfl
  rotate_right
  · cases read
    rfl
  all_goals
    obtain ⟨_, -, read⟩ := except_bind_ok read
    cases read
    rfl

/-- The file suffixes of a `customFileSuffix` mapping leave the command alone. The model suffix is
read when given, then the service suffix, then the example suffix, each bound before the next is
looked up. -/
theorem setSuffixes_commandLine {c c' : Config} {suffixes : Value}
    (read : c.setSuffixes suffixes = .ok c') : c'.commandLine = c.commandLine := by
  unfold setSuffixes at read
  simp only [pure_bind] at read
  split at read
  · obtain ⟨_, -, read⟩ := except_bind_ok read
    split at read
    · obtain ⟨_, -, read⟩ := except_bind_ok read
      split at read
      · obtain ⟨_, -, read⟩ := except_bind_ok read
        cases read
        rfl
      · cases read
        rfl
    · split at read
      · obtain ⟨_, -, read⟩ := except_bind_ok read
        cases read
        rfl
      · cases read
        rfl
  · split at read
    · obtain ⟨_, -, read⟩ := except_bind_ok read
      split at read
      · obtain ⟨_, -, read⟩ := except_bind_ok read
        cases read
        rfl
      · cases read
        rfl
    · split at read
      · obtain ⟨_, -, read⟩ := except_bind_ok read
        cases read
        rfl
      · cases read
        rfl

/-- Every configuration that reading returns has the default command. A text key sets an option or
the file suffixes; any other key is skipped. -/
theorem ofDocument_commandLine {d : Value} {c : Config} (read : ofDocument d = .ok c) :
    c.commandLine = Config.default.commandLine := by
  unfold ofDocument at read
  split at read
  · refine foldlM_invariant _ _ _ (fun c => c.commandLine = Config.default.commandLine) rfl
      (fun acc entry acc' _ kept stepped => ?_) read
    rw [← kept]
    split at stepped
    · dsimp only at stepped
      split at stepped
      · exact setSuffixes_commandLine stepped
      · exact set_commandLine stepped
    · cases stepped
      rfl
  · cases read

/-- Writing the options out and reading them back gives the same options, the command aside; so
writing out a configuration that reading returned and reading it back gives it again. Each written
key is its option's own name, and the reader of each option's kind gives a Boolean, an integer or a
text back unchanged. -/
theorem toDocument_reads_back (c : Config) :
    ofDocument c.toDocument = .ok { c with commandLine := Config.default.commandLine } ∧
      ∀ d, ofDocument d = .ok c → ofDocument c.toDocument = .ok c := by
  have readBack :
      ofDocument c.toDocument = .ok { c with commandLine := Config.default.commandLine } := rfl
  refine ⟨readBack, fun d read => ?_⟩
  rw [readBack, ← ofDocument_commandLine read]

end ClientGen.Config
