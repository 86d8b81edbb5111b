namespace MailWindow

variable {α : Type}

/-- Drops the lower half unless its end lies above the target, and the rest of the list otherwise,
until one entry is left. -/
def halve (above : α → Bool) (xs : List α) : Option α :=
  if h : xs.length ≤ 1 then xs.head?
  else
    let half := xs.length / 2
    if above xs[half] then halve above (xs.take (xs.length - half))
    else halve above (xs.drop half)
termination_by xs.length

end MailWindow
