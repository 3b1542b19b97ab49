import MetricDesk.Text.Combining

/-! The composed form of a text: characters and the marks that follow them are put together where
one character says the same. Texts are lists of code points here. Edition 14 of the character
tables. -/
namespace MetricDesk.Text

/-- Code points that no composed text has, as closed ranges in ascending order. -/
def unstableRanges : List (Nat × Nat) := [
    (832, 833), (835, 836), (884, 884), (894, 894), (903, 903), (2392, 2399), (2524, 2525), (2527,
    2527), (2611, 2611), (2614, 2614), (2649, 2651), (2654, 2654), (2908, 2909), (3907, 3907),
    (3917, 3917), (3922, 3922), (3927, 3927), (3932, 3932), (3945, 3945), (3955, 3955), (3957,
    3958), (3960, 3960), (3969, 3969), (3987, 3987), (3997, 3997), (4002, 4002), (4007, 4007),
    (4012, 4012), (4025, 4025), (8049, 8049), (8051, 8051), (8053, 8053), (8055, 8055), (8057,
    8057), (8059, 8059), (8061, 8061), (8123, 8123), (8126, 8126), (8137, 8137), (8139, 8139),
    (8147, 8147), (8155, 8155), (8163, 8163), (8171, 8171), (8174, 8175), (8185, 8185), (8187,
    8187), (8189, 8189), (8192, 8193), (8486, 8486), (8490, 8491), (9001, 9002), (10972, 10972),
    (63744, 64013), (64016, 64016), (64018, 64018), (64021, 64030), (64032, 64032), (64034, 64034),
    (64037, 64038), (64042, 64109), (64112, 64217), (64285, 64285), (64287, 64287), (64298, 64310),
    (64312, 64316), (64318, 64318), (64320, 64321), (64323, 64324), (64326, 64334), (119134,
    119140), (119227, 119232), (194560, 195101)]

/-- For a mark, what it may follow and the character that says the same. -/
def compositions : List (Nat × List (Nat × Nat)) := [
    (768, [(65, 192), (69, 200), (73, 204), (78, 504), (79, 210), (85, 217), (87, 7808), (89,
      7922), (97, 224), (101, 232), (105, 236), (110, 505), (111, 242), (117, 249), (119, 7809),
      (121, 7923), (168, 8173), (194, 7846), (202, 7872), (212, 7890), (220, 475), (226, 7847),
      (234, 7873), (244, 7891), (252, 476), (258, 7856), (259, 7857), (274, 7700), (275, 7701),
      (332, 7760), (333, 7761), (416, 7900), (417, 7901), (431, 7914), (432, 7915), (913, 8122),
      (917, 8136), (919, 8138), (921, 8154), (927, 8184), (933, 8170), (937, 8186), (945, 8048),
      (949, 8050), (951, 8052), (953, 8054), (959, 8056), (965, 8058), (969, 8060), (970, 8146),
      (971, 8162), (1045, 1024), (1048, 1037), (1077, 1104), (1080, 1117), (7936, 7938), (7937,
      7939), (7944, 7946), (7945, 7947), (7952, 7954), (7953, 7955), (7960, 7962), (7961, 7963),
      (7968, 7970), (7969, 7971), (7976, 7978), (7977, 7979), (7984, 7986), (7985, 7987), (7992,
      7994), (7993, 7995), (8000, 8002), (8001, 8003), (8008, 8010), (8009, 8011), (8016, 8018),
      (8017, 8019), (8025, 8027), (8032, 8034), (8033, 8035), (8040, 8042), (8041, 8043), (8127,
      8141), (8190, 8157)]),
    (769, [(65, 193), (67, 262), (69, 201), (71, 500), (73, 205), (75, 7728), (76, 313), (77,
      7742), (78, 323), (79, 211), (80, 7764), (82, 340), (83, 346), (85, 218), (87, 7810), (89,
      221), (90, 377), (97, 225), (99, 263), (101, 233), (103, 501), (105, 237), (107, 7729),
      (108, 314), (109, 7743), (110, 324), (111, 243), (112, 7765), (114, 341), (115, 347), (117,
      250), (119, 7811), (121, 253), (122, 378), (168, 901), (194, 7844), (197, 506), (198, 508),
      (199, 7688), (202, 7870), (207, 7726), (212, 7888), (213, 7756), (216, 510), (220, 471),
      (226, 7845), (229, 507), (230, 509), (231, 7689), (234, 7871), (239, 7727), (244, 7889),
      (245, 7757), (248, 511), (252, 472), (258, 7854), (259, 7855), (274, 7702), (275, 7703),
      (332, 7762), (333, 7763), (360, 7800), (361, 7801), (416, 7898), (417, 7899), (431, 7912),
      (432, 7913), (913, 902), (917, 904), (919, 905), (921, 906), (927, 908), (933, 910), (937,
      911), (945, 940), (949, 941), (951, 942), (953, 943), (959, 972), (965, 973), (969, 974),
      (970, 912), (971, 944), (978, 979), (1043, 1027), (1050, 1036), (1075, 1107), (1082, 1116),
      (7936, 7940), (7937, 7941), (7944, 7948), (7945, 7949), (7952, 7956), (7953, 7957), (7960,
      7964), (7961, 7965), (7968, 7972), (7969, 7973), (7976, 7980), (7977, 7981), (7984, 7988),
      (7985, 7989), (7992, 7996), (7993, 7997), (8000, 8004), (8001, 8005), (8008, 8012), (8009,
      8013), (8016, 8020), (8017, 8021), (8025, 8029), (8032, 8036), (8033, 8037), (8040, 8044),
      (8041, 8045), (8127, 8142), (8190, 8158)]),
    (770, [(65, 194), (67, 264), (69, 202), (71, 284), (72, 292), (73, 206), (74, 308), (79, 212),
      (83, 348), (85, 219), (87, 372), (89, 374), (90, 7824), (97, 226), (99, 265), (101, 234),
      (103, 285), (104, 293), (105, 238), (106, 309), (111, 244), (115, 349), (117, 251), (119,
      373), (121, 375), (122, 7825), (7840, 7852), (7841, 7853), (7864, 7878), (7865, 7879),
      (7884, 7896), (7885, 7897)]),
    (771, [(65, 195), (69, 7868), (73, 296), (78, 209), (79, 213), (85, 360), (86, 7804), (89,
      7928), (97, 227), (101, 7869), (105, 297), (110, 241), (111, 245), (117, 361), (118, 7805),
      (121, 7929), (194, 7850), (202, 7876), (212, 7894), (226, 7851), (234, 7877), (244, 7895),
      (258, 7860), (259, 7861), (416, 7904), (417, 7905), (431, 7918), (432, 7919)]),
    (772, [(65, 256), (69, 274), (71, 7712), (73, 298), (79, 332), (85, 362), (89, 562), (97,
      257), (101, 275), (103, 7713), (105, 299), (111, 333), (117, 363), (121, 563), (196, 478),
      (198, 482), (213, 556), (214, 554), (220, 469), (228, 479), (230, 483), (245, 557), (246,
      555), (252, 470), (490, 492), (491, 493), (550, 480), (551, 481), (558, 560), (559, 561),
      (913, 8121), (921, 8153), (933, 8169), (945, 8113), (953, 8145), (965, 8161), (1048, 1250),
      (1059, 1262), (1080, 1251), (1091, 1263), (7734, 7736), (7735, 7737), (7770, 7772), (7771,
      7773)]),
    (774, [(65, 258), (69, 276), (71, 286), (73, 300), (79, 334), (85, 364), (97, 259), (101,
      277), (103, 287), (105, 301), (111, 335), (117, 365), (552, 7708), (553, 7709), (913, 8120),
      (921, 8152), (933, 8168), (945, 8112), (953, 8144), (965, 8160), (1040, 1232), (1045, 1238),
      (1046, 1217), (1048, 1049), (1059, 1038), (1072, 1233), (1077, 1239), (1078, 1218), (1080,
      1081), (1091, 1118), (7840, 7862), (7841, 7863)]),
    (775, [(65, 550), (66, 7682), (67, 266), (68, 7690), (69, 278), (70, 7710), (71, 288), (72,
      7714), (73, 304), (77, 7744), (78, 7748), (79, 558), (80, 7766), (82, 7768), (83, 7776),
      (84, 7786), (87, 7814), (88, 7818), (89, 7822), (90, 379), (97, 551), (98, 7683), (99, 267),
      (100, 7691), (101, 279), (102, 7711), (103, 289), (104, 7715), (109, 7745), (110, 7749),
      (111, 559), (112, 7767), (114, 7769), (115, 7777), (116, 7787), (119, 7815), (120, 7819),
      (121, 7823), (122, 380), (346, 7780), (347, 7781), (352, 7782), (353, 7783), (383, 7835),
      (7778, 7784), (7779, 7785)]),
    (776, [(65, 196), (69, 203), (72, 7718), (73, 207), (79, 214), (85, 220), (87, 7812), (88,
      7820), (89, 376), (97, 228), (101, 235), (104, 7719), (105, 239), (111, 246), (116, 7831),
      (117, 252), (119, 7813), (120, 7821), (121, 255), (213, 7758), (245, 7759), (362, 7802),
      (363, 7803), (921, 938), (933, 939), (953, 970), (965, 971), (978, 980), (1030, 1031),
      (1040, 1234), (1045, 1025), (1046, 1244), (1047, 1246), (1048, 1252), (1054, 1254), (1059,
      1264), (1063, 1268), (1067, 1272), (1069, 1260), (1072, 1235), (1077, 1105), (1078, 1245),
      (1079, 1247), (1080, 1253), (1086, 1255), (1091, 1265), (1095, 1269), (1099, 1273), (1101,
      1261), (1110, 1111), (1240, 1242), (1241, 1243), (1256, 1258), (1257, 1259)]),
    (777, [(65, 7842), (69, 7866), (73, 7880), (79, 7886), (85, 7910), (89, 7926), (97, 7843),
      (101, 7867), (105, 7881), (111, 7887), (117, 7911), (121, 7927), (194, 7848), (202, 7874),
      (212, 7892), (226, 7849), (234, 7875), (244, 7893), (258, 7858), (259, 7859), (416, 7902),
      (417, 7903), (431, 7916), (432, 7917)]),
    (778, [(65, 197), (85, 366), (97, 229), (117, 367), (119, 7832), (121, 7833)]),
    (779, [(79, 336), (85, 368), (111, 337), (117, 369), (1059, 1266), (1091, 1267)]),
    (780, [(65, 461), (67, 268), (68, 270), (69, 282), (71, 486), (72, 542), (73, 463), (75, 488),
      (76, 317), (78, 327), (79, 465), (82, 344), (83, 352), (84, 356), (85, 467), (90, 381), (97,
      462), (99, 269), (100, 271), (101, 283), (103, 487), (104, 543), (105, 464), (106, 496),
      (107, 489), (108, 318), (110, 328), (111, 466), (114, 345), (115, 353), (116, 357), (117,
      468), (122, 382), (220, 473), (252, 474), (439, 494), (658, 495)]),
    (783, [(65, 512), (69, 516), (73, 520), (79, 524), (82, 528), (85, 532), (97, 513), (101,
      517), (105, 521), (111, 525), (114, 529), (117, 533), (1140, 1142), (1141, 1143)]),
    (785, [(65, 514), (69, 518), (73, 522), (79, 526), (82, 530), (85, 534), (97, 515), (101,
      519), (105, 523), (111, 527), (114, 531), (117, 535)]),
    (787, [(913, 7944), (917, 7960), (919, 7976), (921, 7992), (927, 8008), (937, 8040), (945,
      7936), (949, 7952), (951, 7968), (953, 7984), (959, 8000), (961, 8164), (965, 8016), (969,
      8032)]),
    (788, [(913, 7945), (917, 7961), (919, 7977), (921, 7993), (927, 8009), (929, 8172), (933,
      8025), (937, 8041), (945, 7937), (949, 7953), (951, 7969), (953, 7985), (959, 8001), (961,
      8165), (965, 8017), (969, 8033)]),
    (795, [(79, 416), (85, 431), (111, 417), (117, 432)]),
    (803, [(65, 7840), (66, 7684), (68, 7692), (69, 7864), (72, 7716), (73, 7882), (75, 7730),
      (76, 7734), (77, 7746), (78, 7750), (79, 7884), (82, 7770), (83, 7778), (84, 7788), (85,
      7908), (86, 7806), (87, 7816), (89, 7924), (90, 7826), (97, 7841), (98, 7685), (100, 7693),
      (101, 7865), (104, 7717), (105, 7883), (107, 7731), (108, 7735), (109, 7747), (110, 7751),
      (111, 7885), (114, 7771), (115, 7779), (116, 7789), (117, 7909), (118, 7807), (119, 7817),
      (121, 7925), (122, 7827), (416, 7906), (417, 7907), (431, 7920), (432, 7921)]),
    (804, [(85, 7794), (117, 7795)]),
    (805, [(65, 7680), (97, 7681)]),
    (806, [(83, 536), (84, 538), (115, 537), (116, 539)]),
    (807, [(67, 199), (68, 7696), (69, 552), (71, 290), (72, 7720), (75, 310), (76, 315), (78,
      325), (82, 342), (83, 350), (84, 354), (99, 231), (100, 7697), (101, 553), (103, 291), (104,
      7721), (107, 311), (108, 316), (110, 326), (114, 343), (115, 351), (116, 355)]),
    (808, [(65, 260), (69, 280), (73, 302), (79, 490), (85, 370), (97, 261), (101, 281), (105,
      303), (111, 491), (117, 371)]),
    (813, [(68, 7698), (69, 7704), (76, 7740), (78, 7754), (84, 7792), (85, 7798), (100, 7699),
      (101, 7705), (108, 7741), (110, 7755), (116, 7793), (117, 7799)]),
    (814, [(72, 7722), (104, 7723)]),
    (816, [(69, 7706), (73, 7724), (85, 7796), (101, 7707), (105, 7725), (117, 7797)]),
    (817, [(66, 7686), (68, 7694), (75, 7732), (76, 7738), (78, 7752), (82, 7774), (84, 7790),
      (90, 7828), (98, 7687), (100, 7695), (104, 7830), (107, 7733), (108, 7739), (110, 7753),
      (114, 7775), (116, 7791), (122, 7829)]),
    (824, [(60, 8814), (61, 8800), (62, 8815), (8592, 8602), (8594, 8603), (8596, 8622), (8656,
      8653), (8658, 8655), (8660, 8654), (8707, 8708), (8712, 8713), (8715, 8716), (8739, 8740),
      (8741, 8742), (8764, 8769), (8771, 8772), (8773, 8775), (8776, 8777), (8781, 8813), (8801,
      8802), (8804, 8816), (8805, 8817), (8818, 8820), (8819, 8821), (8822, 8824), (8823, 8825),
      (8826, 8832), (8827, 8833), (8828, 8928), (8829, 8929), (8834, 8836), (8835, 8837), (8838,
      8840), (8839, 8841), (8849, 8930), (8850, 8931), (8866, 8876), (8872, 8877), (8873, 8878),
      (8875, 8879), (8882, 8938), (8883, 8939), (8884, 8940), (8885, 8941)]),
    (834, [(168, 8129), (945, 8118), (951, 8134), (953, 8150), (965, 8166), (969, 8182), (970,
      8151), (971, 8167), (7936, 7942), (7937, 7943), (7944, 7950), (7945, 7951), (7968, 7974),
      (7969, 7975), (7976, 7982), (7977, 7983), (7984, 7990), (7985, 7991), (7992, 7998), (7993,
      7999), (8016, 8022), (8017, 8023), (8025, 8031), (8032, 8038), (8033, 8039), (8040, 8046),
      (8041, 8047), (8127, 8143), (8190, 8159)]),
    (837, [(913, 8124), (919, 8140), (937, 8188), (940, 8116), (942, 8132), (945, 8115), (951,
      8131), (969, 8179), (974, 8180), (7936, 8064), (7937, 8065), (7938, 8066), (7939, 8067),
      (7940, 8068), (7941, 8069), (7942, 8070), (7943, 8071), (7944, 8072), (7945, 8073), (7946,
      8074), (7947, 8075), (7948, 8076), (7949, 8077), (7950, 8078), (7951, 8079), (7968, 8080),
      (7969, 8081), (7970, 8082), (7971, 8083), (7972, 8084), (7973, 8085), (7974, 8086), (7975,
      8087), (7976, 8088), (7977, 8089), (7978, 8090), (7979, 8091), (7980, 8092), (7981, 8093),
      (7982, 8094), (7983, 8095), (8032, 8096), (8033, 8097), (8034, 8098), (8035, 8099), (8036,
      8100), (8037, 8101), (8038, 8102), (8039, 8103), (8040, 8104), (8041, 8105), (8042, 8106),
      (8043, 8107), (8044, 8108), (8045, 8109), (8046, 8110), (8047, 8111), (8048, 8114), (8052,
      8130), (8060, 8178), (8118, 8119), (8134, 8135), (8182, 8183)]),
    (1619, [(1575, 1570)]),
    (1620, [(1575, 1571), (1608, 1572), (1610, 1574), (1729, 1730), (1746, 1747), (1749, 1728)]),
    (1621, [(1575, 1573)]),
    (2364, [(2344, 2345), (2352, 2353), (2355, 2356)]),
    (2494, [(2503, 2507)]),
    (2519, [(2503, 2508)]),
    (2878, [(2887, 2891)]),
    (2902, [(2887, 2888)]),
    (2903, [(2887, 2892)]),
    (3006, [(3014, 3018), (3015, 3019)]),
    (3031, [(2962, 2964), (3014, 3020)]),
    (3158, [(3142, 3144)]),
    (3266, [(3270, 3274)]),
    (3285, [(3263, 3264), (3270, 3271), (3274, 3275)]),
    (3286, [(3270, 3272)]),
    (3390, [(3398, 3402), (3399, 3403)]),
    (3415, [(3398, 3404)]),
    (3530, [(3545, 3546), (3548, 3549)]),
    (3535, [(3545, 3548)]),
    (3551, [(3545, 3550)]),
    (4142, [(4133, 4134)]),
    (6965, [(6917, 6918), (6919, 6920), (6921, 6922), (6923, 6924), (6925, 6926), (6929, 6930),
      (6970, 6971), (6972, 6973), (6974, 6976), (6975, 6977), (6978, 6979)]),
    (12441, [(12358, 12436), (12363, 12364), (12365, 12366), (12367, 12368), (12369, 12370),
      (12371, 12372), (12373, 12374), (12375, 12376), (12377, 12378), (12379, 12380), (12381,
      12382), (12383, 12384), (12385, 12386), (12388, 12389), (12390, 12391), (12392, 12393),
      (12399, 12400), (12402, 12403), (12405, 12406), (12408, 12409), (12411, 12412), (12445,
      12446), (12454, 12532), (12459, 12460), (12461, 12462), (12463, 12464), (12465, 12466),
      (12467, 12468), (12469, 12470), (12471, 12472), (12473, 12474), (12475, 12476), (12477,
      12478), (12479, 12480), (12481, 12482), (12484, 12485), (12486, 12487), (12488, 12489),
      (12495, 12496), (12498, 12499), (12501, 12502), (12504, 12505), (12507, 12508), (12527,
      12535), (12528, 12536), (12529, 12537), (12530, 12538), (12541, 12542)]),
    (12442, [(12399, 12401), (12402, 12404), (12405, 12407), (12408, 12410), (12411, 12413),
      (12495, 12497), (12498, 12500), (12501, 12503), (12504, 12506), (12507, 12509)]),
    (69818, [(69785, 69786), (69787, 69788), (69797, 69803)]),
    (69927, [(69937, 69934), (69938, 69935)]),
    (70462, [(70471, 70475)]),
    (70487, [(70471, 70476)]),
    (70832, [(70841, 70844)]),
    (70842, [(70841, 70843)]),
    (70845, [(70841, 70846)]),
    (71087, [(71096, 71098), (71097, 71099)]),
    (71984, [(71989, 71992)])]

/-! Syllables of the Korean script are composed by counting: nineteen leading letters, twenty-one
vowels, and twenty-seven trailing letters or none. -/

def firstSyllable : Nat := 0xAC00

def leading? (n : Nat) : Option Nat := if 0x1100 ≤ n ∧ n < 0x1113 then some (n - 0x1100) else none

def vowel? (n : Nat) : Option Nat := if 0x1161 ≤ n ∧ n < 0x1176 then some (n - 0x1161) else none

def trailing? (n : Nat) : Option Nat := if 0x11A8 ≤ n ∧ n < 0x11C3 then some (n - 0x11A7) else none

def syllable? (n : Nat) : Option Nat :=
  if firstSyllable ≤ n ∧ n < firstSyllable + 19 * 21 * 28 then some (n - firstSyllable) else none

/-- The one character for two, if there is one. -/
def composition? (a b : Nat) : Option Nat :=
  match leading? a, vowel? b, syllable? a, trailing? b with
  | some l, some v, _, _ => some (firstSyllable + (l * 21 + v) * 28)
  | _, _, some s, some t => if s % 28 = 0 then some (a + t) else none
  | _, _, _, _ => (compositions.lookup b).bind (·.lookup a)

/-- The two characters for one, if there are any. -/
def parts? (n : Nat) : Option (Nat × Nat) :=
  match syllable? n with
  | some s =>
    some (if s % 28 = 0 then (0x1100 + s / 588, 0x1161 + s % 588 / 28)
      else (n - s % 28, 0x11A7 + s % 28))
  | none => compositions.findSome? fun (b, wholes) =>
    (wholes.find? (·.2 = n)).map fun (a, _) => (a, b)

/-- A character taken apart, so many times at most. -/
def takenApart : Nat → Nat → List Nat
  | 0, n => [n]
  | times + 1, n =>
    match parts? n with
    | some (a, b) => takenApart times a ++ [b]
    | none => [n]

/-- No character is composed more than three times. -/
def decomposed (text : List Nat) : List Nat := text.flatMap (takenApart 3)

/-- A mark goes behind those of lower classes. -/
def placed (n : Nat) : List Nat → List Nat
  | [] => [n]
  | x :: xs =>
    if combiningClass x ≠ 0 ∧ combiningClass x < combiningClass n then x :: placed n xs
    else n :: x :: xs

/-- Marks behind a character in the order of their classes. -/
def arranged (text : List Nat) : List Nat := text.foldr placed []

/-- A character put together with what follows. What has been passed over stands behind it, the
latest first, and keeps those that follow of its class, or of a lower one, from it. -/
def joined (base : Nat) (passed : List Nat) : List Nat → List Nat
  | [] => base :: passed.reverse
  | n :: rest =>
    let isFree := match passed with
      | [] => true
      | p :: _ => combiningClass p < combiningClass n
    match if isFree then composition? base n else none with
    | some whole => joined whole passed rest
    | none =>
      if combiningClass n = 0 then base :: passed.reverse ++ joined n [] rest
      else joined base (n :: passed) rest

/-- The composed form of a text without characters that are unstable. -/
def composed (text : List Nat) : List Nat :=
  match arranged (decomposed text) with
  | [] => []
  | n :: rest => joined n [] rest

/-- Whether a text is in its composed form. -/
def isComposed (text : List Nat) : Bool :=
  text.all (fun n => !covers unstableRanges n) && composed text == text

end MetricDesk.Text
