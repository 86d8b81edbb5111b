namespace MailWindow

abbrev Scanner := StateT (List Char) Option

namespace Scanner

def mark (c : Char) : Scanner Unit := fun cs ↦
  if cs.head? = some c then some ((), cs.drop 1) else none

def piece (kind : Char → Bool) : Scanner (List Char) := fun cs ↦
  some (cs.takeWhile kind, cs.dropWhile kind)

def valueOf (ds : List Char) : Nat := ds.foldl (fun n d ↦ n * 10 + (d.toNat - 48)) 0

end Scanner

end MailWindow
