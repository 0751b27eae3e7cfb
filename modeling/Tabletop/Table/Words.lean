/-!
# Tabletop.Table.Words — the words of the built-in tables

The lists that the built-in tables pick from. Names are glued together from an opening and a closing
as they stand; letters in parentheses (as in `Boun(ty)`) are an optional spelling left to the reader.
Tribes and landforms carry the space that sets them apart.
-/

namespace Tabletop.Words

/-! ## What people are called -/

/-- Openings of female names. -/
def femaleOpenings : List String :=
  ["Angel", "Anim", "Bear", "Bless", "Blush", "Boni", "Boun(ty)", "Claw", "Cloud", "Dale",
   "Dark", "Dawn", "Doe", "Doll", "Dour", "Dove", "Dusk", "Eagle", "El(f)", "Ewe", "Fair(y)",
   "Fate", "Fawn", "Fay", "Fell", "Fiend", "Flax(en)", "Foal", "Fond", "Free", "Fur", "Gay",
   "Gem", "Gift", "Glad", "Glen", "Glor", "Gob", "Gold", "Grey", "Hiss", "Hon(ey)", "Honor",
   "Hope", "Horse", "Jade", "Joy", "Just", "Kind", "Knife", "Lamb", "Lass", "Law", "Leaf",
   "Lewd", "Life", "Love", "Lune", "Lynx", "Mare", "Mead", "Mew", "Mild", "Milk", "Moon", "Nag",
   "Nob(le)", "Pale", "Peace", "Peach", "Pearl", "Queen", "Red", "Rich", "Rose", "Rud", "Sacre",
   "Sea(born)", "Sil(ven)", "Sky", "Snow(y)", "Soft", "Sol(ar)", "Spear", "Star", "Sun",
   "Sweet", "Sword", "Thor", "True", "Tyr", "Ven(us)", "Vile", "Wand", "War", "Wave", "Wite",
   "Wild"]

/-- Closings of female names. -/
def femaleClosings : List String :=
  ["a", "acey", "ache", "ada", "adne", "aelia", "al", "alia", "alie", "alla", "anca", "anda",
   "ance", "anche", "andra", "ara", "arla", "asia", "asla", "asta", "ata", "berta", "beth",
   "beth", "bia", "ca", "cella", "cia", "da", "dicta", "dida", "drede", "een", "elia", "ella",
   "ella", "elle", "slot", "entia", "esa", "esca", "ethe", "etta", "ette", "farah", "garde",
   "genia", "herita", "ia", "icent", "ie", "ien", "ienna", "ika", "inda", "is", "isa", "itta",
   "la", "laide", "lene", "line", "ly", "lyn", "ma", "maid", "mela", "mina", "mira", "nah",
   "natta", "onia", "ora", "phne", "reda", "rey", "rie", "rifa", "rina", "rine", "rora", "sey",
   "silla", "sola", "strella", "sula", "tha", "thia", "thora", "titia", "tola", "ula", "usta",
   "va", "vere", "vette", "vilia", "vina", "vita", "wig", "wina"]

/-- Openings of male names. -/
def maleOpenings : List String :=
  ["Ache", "Aim", "Bald", "Bear", "Blush", "Boar", "Boast", "Boil", "Boni", "Boy", "Bower",
   "Churl", "Corn", "Cut", "Dark", "Dire", "Dour", "Dross", "Dupe", "Dusk", "Dwar(f)", "Ebb",
   "El(f)", "Fag", "Fate", "Fay", "Fell", "Fly", "Fowl", "Gard", "Gay", "Gilt", "Girth", "Glut",
   "Goad", "Gold", "Gorge", "Grey", "Groan", "Haft", "Hale", "Hawk", "Haught", "Hiss", "Hock",
   "Hoof", "Horn", "Kin", "Kith", "Lank", "Leaf", "Lewd", "Louse", "Lure", "Man", "Mars",
   "Meed", "Moat", "Mould", "Muff", "Muse", "Not", "Numb", "Odd", "Ooze", "Ox", "Pale", "Port",
   "Quid", "Rau", "Red", "Rich", "Rob", "Rod", "Rud", "Ruff", "Run", "Rush", "Scoff", "Skew",
   "Sky", "Sly", "Sow", "Stave", "Steed", "Swar", "Thor", "Tort", "Twig", "Twit", "Vain",
   "Vent", "Vile", "Wail", "War", "Whip", "Wise", "Worm", "Yip"]

/-- Closings of male names. -/
def maleClosings : List String :=
  ["ander", "ard", "bald", "ban", "baugh", "bert", "brand", "cas", "celot", "cent", "cester",
   "cott", "dane", "dard", "doch", "dolph", "don", "doric", "dower", "dred", "fird", "ford",
   "fram", "fred", "frid", "fried", "gal", "gard", "gernon", "gill", "gurd", "gus", "ham",
   "hard", "hart", "helm", "horne", "ister", "kild", "lan", "lard", "ley", "lisle", "loch",
   "man", "mar", "mas", "mon", "mond", "mour", "mund", "nald", "nard", "nath", "ney", "olas",
   "pold", "rad", "ram", "rard", "red", "rence", "reth", "rick", "ridge", "riel", "ron", "rone",
   "roth", "sander", "sard", "shall", "shaw", "son", "steen", "stone", "ter", "than", "ther",
   "thon", "thur", "ton", "tor", "tran", "tus", "ulf", "vald", "vard", "ven", "vid", "vred",
   "wald", "wallader", "ward", "worth", "wig", "win", "wood", "yard"]

/-- Epithets and bynames. -/
def bynames : List String :=
  ["Agodeshalf", "Agog", "Backslapper", "Benish", "Blackleggs", "Bluff", "Bowyer", "Cad",
   "Carouser", "Churlish", "Chuffy", "Clear", "Chary-eyed", "Chocker", "Codger", "Croaker",
   "Crumpbacked", "Conycatcher", "Crochety", "Crossbiter", "Cussed", "Dewduster", "Dogberry",
   "Duffer", "Dullswift", "Dummyhunter", "Earlyworm", "Forfot", "Fussock", "Faytor", "Filcher",
   "Foyster", "Foyster", "Frumper", "Gabster", "Gaffer", "Galoot", "Geezer", "Gilly-gaupus",
   "Gladhand", "Glimflashy", "Groaner", "Grumbletonian", "Gullgroper", "Holebag", "Holebuc",
   "Hoydan", "Huckster", "Hulking", "Illefoster", "Jackanape", "Jackman", "Knuckler",
   "Landloper", "Loggerhead", "Merrybegotten", "Minikin", "Nacky", "Nagod", "Nickninny", "Nob",
   "Noddy", "Numbskull", "Onery", "Persnikity", "Pullego", "Quanchehand", "Quat", "Ragmuffen",
   "Rogue", "Rumbluffer", "Runt", "Rustyguts", "Sapskull", "Scerehog", "Screwjaws",
   "Shakehands", "Smud", "Snabbler", "Snaffler", "Stunch", "Topheavy", "Towhead", "Twohanded",
   "Unbaked", "Uppish", "Uprightman", "Upstart", "Varlet", "Wag", "Whiddler", "Whitelivered",
   "Wigga", "Wildrogue", "Wiseacre", "Woodpecker", "Wrongun", "Yahoo", "Yelper", "Zad", "Zouch"]

/-! ## What orcs are called -/

/-- Openings of orc names. -/
def orcOpenings : List String :=
  ["Oink", "Squeal", "Snort", "Fart", "Spit", "Spew", "Crap", "Scat", "Croak", "Clap", "Trap",
   "Clod", "Gob", "Snot", "Wax", "Pus", "Puke", "Hurl", "Belch", "Slurp", "Spew", "Bone", "Jaw",
   "Teeth", "Skull", "Mud", "Claw", "Toe", "Chunk", "Blood", "Nose", "Sphincter", "Itch",
   "Eyeball", "Scalp", "Scab", "Bruise", "Wound", "Ear", "Tongue", "Rag", "Bag", "Shag", "Jag",
   "Jug", "Mug", "Hag", "Sag", "Zig", "Tick", "Quick", "Sick", "Fang"]

/-- Closings of orc names. Repeated entries are repeated chances. -/
def orcClosings : List String :=
  ["slip", "squirt", "choke", "snap", "clap", "slap", "flap", "pap", "splat", "chortle",
   "squelch", "smack", "spit", "throttle", "crack", "chafe", "spill", "hop", "knock", "crush",
   "break", "grind", "dig", "sling", "stick", "rake", "cripple", "creep", "smear", "squeeze",
   "scratch", "scrape", "pierce", "rip", "tip", "nip", "sniff", "lick", "grab", "bruise",
   "dump", "pull", "heave", "grope", "hurl", "spew", "tag", "jig", "tug", "pinch", "bite",
   "box", "nag", "wag", "brag", "sag", "zag", "pick", "kick", "flick", "nick", "splat", "blot",
   "wipe", "munch", "chew", "crunch"]

/-- Orc tribes, each with a leading space. -/
def orcTribes : List String :=
  [" Gobsmacker", " Clodhopper", " Fartknocker", " Bonecrusher", " Jawbreaker", " Teethgrinder",
   " Skulldugger", " Mudslinger", " Slapsticker", " Muckraker", " Oinkblot", " Mugshot",
   " Pate-spliter", " Mane-scalper", " Face-slapper", " Cheekpincher", " Earpiercer",
   " Suckerpuncher", " Kisserslapper", " Fangsinker", " Clawslasher"]

/-! ## Where somebody comes from -/

/-- Compass and quality words. -/
def placeQualities : List String :=
  ["North", "South", "East", "West", "Midnight", "Noontide", "Sunrise", "Sunset", "Outer",
   "Inner", "Middle", "Central", "Hidden", "Shadow", "Ivory", "Clouded", "Umber", "Violet",
   "Azure", "Verdant", "Crimson"]

/-- Landforms, each with a leading space. Repeated entries are repeated chances. -/
def landforms : List String :=
  [" Mount(ain(s))", " Crag(s)", " Reaches", " Cave(s)", " Hill(s)", " Down(s)", " Plain(s)",
   " Meadow(s)", " Grassland", " Lowland", " Highland", " Upland", " Bottom", " Heath", " Moor",
   " Savannah", " Steppe(s)", " Waste(s)", " Desert", " Forest", " Wood(s)", " Thicket",
   " Timberland", " Glen", " Grove", " Jungle", " Marsh", " Swamp", " Quagmire", " Fen", " Bog",
   " Mire", " Valley", " River", " Canyon", " Brook", " Floods", " Sea", " Mere", " Deep",
   " Gorge", " Expanse", " Flats", " Plateau", " Cavern(s)", " City", " Town", " Village",
   " Empire", " Port", " Kingdom", " March", " Borderland", " Empire", " Caliphate",
   " Dominion", " Duchy", " Principality", " Canton", " Khanate"]

/-! ## What the eight ball answers -/

/-- Answers of the magic eight ball. -/
def eightBallAnswers : List String :=
  ["It is certain", "It is decidedly so", "Without a doubt", "Yes definitely",
   "You may rely on it", "As I see it, yes", "Most likely", "Outlook good", "Yes",
   "Signs point to yes", "Sources hazy, ask again", "Ask again later",
   "Better not tell you now", "Cannot predict now", "Concentrate and ask again",
   "Don't count on it", "My reply is no", "My sources say no", "Outlook not so good",
   "Very doubtful"]

/-! ## What befalls adventurers -/

/-- What happens at zero hit points. Repeated entries are repeated chances. -/
def incapacitations : List String :=
  ["Bleed out in d6 rounds", "Broken shield/ripped robes, restored to 1hp in d3 rounds",
   "Lost weapon/staff/wand, restored to 1hp in d3 rounds",
   "Broken helmet/torn wizard hat, restored to 1hp in d3 rounds",
   "Winded, retored to 1hp in d3 rounds", "Left eye, save vs. blinding",
   "Right eye, save vs. blinding", "Left arm, save vs. loss", "Right arm, save vs. loss",
   "Left leg, save vs. loss", "Right leg, save vs. loss", "Left ear, save vs. hearing loss",
   "Right ear, save vs. hearing loss", "Knocked out", "Knocked out", "Knocked out",
   "Knocked out", "Knocked out", "Knocked out", "Knocked out"]

/-- Madnesses, phobias and delusions. -/
def insanities : List String :=
  ["Amnesia", "Catatonia", "Repetition (immediate)", "Doubling (again that day)", "Ritualizing",
   "Counting", "Hallucinations of (random monster)", "Hysteria", "Melancholia", "Phantom limb",
   "Arachnophobia", "Agoraphobia", "Claustrophobia", "Staurophobia", "Acrophobia", "Hemophobia",
   "Nyctophobia", "Nosophobia", "Ophidiophobia", "Delusions of grandeur",
   "Delusions of persecution", "Delusions of significance (connecting events)",
   "Delusions of reading other minds", "Delusions of mind being read",
   "Delusions of thoughts being injected"]

/-! ## Instruments and playing cards -/

/-- Folk musical instruments. -/
def instruments : List String :=
  ["Pan pipes", "Ocarina", "Flute", "Lute", "Fiddle", "Jawharp", "Concertina", "Harmonica",
   "Tamborine", "Lyre", "Zyther", "Bongos", "Shawm", "Bag pipes", "Recorder", "Oboe", "Bugle",
   "Ukulele", "Quijada", "Tabor & Three-hole Pipe"]

/-- Playing card suits. -/
def cardSuits : List String :=
  ["♥", "♠", "♦", "♣"]

/-- Playing card ranks. -/
def cardRanks : List String :=
  ["A", "2", "3", "4", "5", "6", "7", "8", "9", "10", "J", "Q", "K"]

end Tabletop.Words
